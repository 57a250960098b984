import Mathlib.Data.List.DropRight
import NetboxSync.Lib.Json.Python

open json

namespace python

def strip (text : String) : String := String.ofList ((text.toList.dropWhile isSpace).rdropWhile isSpace)

/-- `text[:n]` -/
def take (text : String) (n : Nat) : String := String.ofList (text.toList.take n)

/-- `text.split()` -/
def split (text : String) : List String := ((text.toList.splitOnP isSpace).filter (· ≠ [])).map String.ofList

/-- What a program reads from tables and digests of the runtime, with the laws of `str.upper`: it settles after one
    pass and leaves no blank at an end that had none. -/
structure Runtime where
  repr : Value → String
  repr_items : Fields → String
  casefold : String → String
  upper : String → String
  sha256_hexdigest : String → String
  upper_upper : ∀ text, upper (upper text) = upper text
  strip_upper : ∀ text, strip text = text → strip (upper text) = upper text

/-- A runtime for text without case, whose records need no order. -/
def Runtime.plain : Runtime where
  repr _ := ""
  repr_items _ := ""
  casefold := id
  upper := id
  sha256_hexdigest := id
  upper_upper _ := rfl
  strip_upper _ h := h

theorem dropWhile_stripped (chars : List Char) :
    ((chars.dropWhile isSpace).rdropWhile isSpace).dropWhile isSpace =
      (chars.dropWhile isSpace).rdropWhile isSpace := by
  cases hstripped : (chars.dropWhile isSpace).rdropWhile isSpace with
  | nil => rfl
  | cons c rest =>
    obtain ⟨dropped, hchars⟩ := List.rdropWhile_prefix isSpace (chars.dropWhile isSpace)
    rw [hstripped, List.cons_append] at hchars
    have hne : chars.dropWhile isSpace ≠ [] := by simp [← hchars]
    have hc : isSpace ((chars.dropWhile isSpace).head hne) = false := List.head_dropWhile_not isSpace hne
    simp only [← hchars, List.head_cons] at hc
    rw [List.dropWhile_cons_of_neg (by simp [hc])]

theorem strip_strip (text : String) : strip (strip text) = strip text := by
  simp only [strip, String.toList_ofList]
  rw [dropWhile_stripped, List.rdropWhile_idempotent]

end python
