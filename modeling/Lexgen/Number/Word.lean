namespace Lexgen.Word

/-- How many numbers a word of 32 bits can hold. -/
abbrev size32 : Nat := 0x100000000

/-- How many numbers a word of 64 bits can hold. -/
abbrev size64 : Nat := 0x10000000000000000

/-- How many numbers of each sign a word of 64 bits can hold. -/
abbrev half64 : Nat := 0x8000000000000000

/-- How many numbers of each sign a word of 128 bits can hold. -/
abbrev half128 : Nat := 0x80000000000000000000000000000000

end Lexgen.Word
