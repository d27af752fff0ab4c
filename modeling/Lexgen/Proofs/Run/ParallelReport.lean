import Lexgen.Proofs.Run.DocumentTasks

namespace Lexgen

variable {σ τ ρ : Type}

namespace Work

theorem FixedOutcomes.of_finishes {work : Work σ τ ρ} {inv : σ → Prop} {outcome : Nat → ρ}
    (hfixed : work.FixedOutcomes inv outcome) {index : Nat} (hindex : index < work.count)
    {task : τ} {s s' : σ} {result : ρ} (hfinishes : work.Finishes task s result s')
    (hunderway : work.Underway inv index task) (hs : inv s) :
    result = outcome index ∧ inv s' := by
  induction hfinishes with
  | last hadvance =>
      have hkeeps := hfixed.keeps hindex hunderway hs
      rw [hadvance] at hkeeps
      exact ⟨hfixed.ends hindex hunderway hs (by rw [hadvance]), hkeeps⟩
  | next hadvance _ ih =>
      have hkeeps := hfixed.keeps hindex hunderway hs
      rw [hadvance] at hkeeps
      exact ih (.advance hunderway hs (by rw [hadvance])) hkeeps

end Work

namespace Generator

open Lexgen.Action

section FixedOutcomes

variable {g : Generator} {out : Path} {paths : List Path} {inv : World → Prop}
  {outcome : Nat → Except Error Outcome}

end FixedOutcomes

section Unwritten

variable {g : Generator} {d : Disk} {out p : Path}

end Unwritten

end Generator

end Lexgen
