import Mathlib.Data.List.GetD
import SchemaDdl.Artifact.Store
import SchemaDdl.Proofs.DividedTexts

/-!
# What a dump consists of

A dump begins with a header of comment lines and goes on, behind an empty line,
with the statements, a line break between any two of them. Nothing else is in
it: `IsDump` says what the whole text is. That the header is made of comments
alone depends on the date, which is put together from words and numbers and must
not bring a line break with it.
-/

namespace SchemaDdl

namespace Date

theorem newline_notMem_padded (width n : Nat) : '\n' ∉ (padded width n).toList := by
  rw [padded, String.toList_ofList, List.leftpad, List.mem_append, not_or]
  refine ⟨?_, ?_⟩
  · intro h
    have hzero : '\n' = '0' := List.eq_of_mem_replicate h
    exact absurd hzero (by decide)
  · intro h
    have hdigit := Nat.isDigit_of_mem_toDigits (by decide) (by decide) h
    exact absurd hdigit (by decide)

/-- Of words without a line break, and of none, one is chosen. -/
theorem newline_notMem_getD {words : List String} (h : ∀ word ∈ words, '\n' ∉ word.toList)
    (n : Nat) : '\n' ∉ (words.getD n "").toList := by
  rcases Nat.lt_or_ge n words.length with hn | hn
  · rw [List.getD_eq_getElem _ _ hn]
    exact h _ (List.getElem_mem hn)
  · rw [List.getD_eq_default _ _ hn]
    decide

theorem newline_notMem_mailText (seconds : Int) : '\n' ∉ (mailText seconds).toList := by
  have hweekday : ∀ word ∈ weekdays, '\n' ∉ word.toList := by decide
  have hmonth : ∀ word ∈ months, '\n' ∉ word.toList := by decide
  have hnumber (n : Nat) : '\n' ∉ (toString n).toList := Text.not_mem_toString (by decide) n
  simp only [mailText, weekday, String.toList_append, List.mem_append, not_or]
  simp only [newline_notMem_padded, newline_notMem_getD hweekday, newline_notMem_getD hmonth,
    hnumber, not_false_iff, and_true, true_and]
  decide

end Date

/-- Comment lines, an empty line, and the statements with a line break between any two. -/
def IsDump (statements : List String) (content : String) : Prop :=
  ∃ header : List String,
    (∀ line ∈ header, "--".toList <+: line.toList ∧ '\n' ∉ line.toList) ∧
      content = String.join (header.map (· ++ "\n")) ++ "\n" ++
        String.intercalate "\n" statements

/-- A text behind two dashes and a blank is a line of a header if it has no line break. -/
theorem header_line {text : String} (h : '\n' ∉ text.toList) :
    "--".toList <+: ("-- " ++ text).toList ∧ '\n' ∉ ("-- " ++ text).toList := by
  rw [String.toList_append]
  refine ⟨⟨' ' :: text.toList, rfl⟩, ?_⟩
  rw [List.mem_append, not_or]
  exact ⟨by decide, h⟩

theorem isDump_dumpText (statements : List String) (seconds : Int) :
    IsDump statements (dumpText statements seconds) := by
  refine ⟨["--", "-- " ++ ("Generated by " ++ Naming.identity), "-- " ++ Date.mailText seconds,
    "--"], ?_, ?_⟩
  · have hbare : "--".toList <+: "--".toList ∧ '\n' ∉ "--".toList := by decide
    have hidentity : '\n' ∉ ("Generated by " ++ Naming.identity).toList := by decide
    simp only [List.forall_mem_cons]
    exact ⟨hbare, header_line hidentity, header_line (Date.newline_notMem_mailText seconds), hbare,
      fun line h => by cases h⟩
  · delta dumpText
    generalize Naming.identity = identity
    generalize Date.mailText seconds = date
    simp [← String.toList_inj]

end SchemaDdl
