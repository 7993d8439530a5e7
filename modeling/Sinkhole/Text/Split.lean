/-! # Parts of a text

Separators divide a text into parts, one more than there are separators.
-/
namespace Sinkhole.Text

/-- The parts between the characters that separate. -/
def parts (separates : Char → Bool) (text : List Char) : List (List Char) :=
  text.foldr
    (fun c parts =>
      match parts with
      | [] => [[c]]
      | part :: rest => if separates c then [] :: part :: rest else (c :: part) :: rest)
    [[]]

theorem parts_ne_nil (separates : Char → Bool) (text : List Char) :
    parts separates text ≠ [] := by
  cases text with
  | nil => simp [parts]
  | cons c text =>
    simp only [parts, List.foldr_cons]
    split
    · simp
    · split <;> simp

theorem parts_of_none (separates : Char → Bool) {text : List Char}
    (h : ∀ c ∈ text, separates c = false) : parts separates text = [text] := by
  induction text with
  | nil => rfl
  | cons c text ih =>
    have rest : parts separates text = [text] := ih fun d hd => h d (List.mem_cons_of_mem c hd)
    simp only [parts] at rest ⊢
    simp [rest, h c (List.mem_cons_self ..)]

def joined (separator : Char) : List (List Char) → List Char
  | [] => []
  | [part] => part
  | part :: rest => part ++ separator :: joined separator rest

theorem joined_parts (separator : Char) (text : List Char) :
    joined separator (parts (· == separator) text) = text := by
  induction text with
  | nil => rfl
  | cons c text ih =>
    have cons : parts (· == separator) (c :: text) =
        match parts (· == separator) text with
        | [] => [[c]]
        | part :: rest => if c == separator then [] :: part :: rest else (c :: part) :: rest := rfl
    rw [cons]
    cases h : parts (· == separator) text with
    | nil => exact absurd h (parts_ne_nil _ text)
    | cons part rest =>
      rw [h] at ih
      by_cases hc : c = separator
      · simp [hc, joined, ih]
      · cases rest <;> simp_all [joined]

end Sinkhole.Text
