import Lexgen.Document.Reader

namespace Lexgen.Document

theorem validate_of_checkId {d doc : Document} (hcheck : d.checkId = .ok doc) :
    Nsid.validate doc.id = .ok () := by
  rw [checkId] at hcheck
  split at hcheck
  · simp at hcheck
  · split at hcheck
    · obtain rfl := Except.ok.inj hcheck
      assumption
    · simp at hcheck

/-- Some text or some value is read as the document. -/
def IsAccepted (doc : Document) : Prop :=
  (∃ bytes, parse bytes = .ok doc) ∨ ∃ value, ofJson value = .ok doc

theorem IsAccepted.validate {doc : Document} (haccepted : doc.IsAccepted) :
    Nsid.validate doc.id = .ok () := by
  rcases haccepted with ⟨bytes, hparse⟩ | ⟨value, hvalue⟩
  · rw [parse] at hparse
    split at hparse
    · exact validate_of_checkId hparse
    · simp at hparse
  · rw [ofJson] at hvalue
    split at hvalue
    · exact validate_of_checkId hvalue
    · simp at hvalue

end Lexgen.Document
