import Mathlib

/-! Texts that tell the parts they are put together from.

A part can be told where a property of its characters ends, or by a mark that the part before it
or the part behind it does not hold. Lines can be told from the text that joins them. Numbers are
told by their digits, and hold no other marks.
-/

set_option autoImplicit false

namespace Descent.Text

section Parts

variable {front front' back back' : List Char} {mark : Char}

theorem append_inj_of_ends {p : Char → Bool} (inside : ∀ c ∈ front, p c = true)
    (inside' : ∀ c ∈ front', p c = true) (ends : ∀ c ∈ back.head?, p c = false)
    (ends' : ∀ c ∈ back'.head?, p c = false) (same : front ++ back = front' ++ back') :
    front = front' ∧ back = back' := by
  have reach {front back : List Char} (inside : ∀ c ∈ front, p c = true)
      (ends : ∀ c ∈ back.head?, p c = false) : (front ++ back).takeWhile p = front := by
    rw [List.takeWhile_append_of_pos inside]
    cases back with
    | nil => exact List.append_nil front
    | cons c rest => rw [List.takeWhile_cons_of_neg (by simp [ends c rfl]), List.append_nil]
  have fronts : front = front' := by
    rw [← reach inside ends, same, reach inside' ends']
  subst fronts
  exact ⟨rfl, List.append_cancel_left same⟩

theorem append_cons_inj_of_first (first : mark ∉ front) (first' : mark ∉ front')
    (same : front ++ mark :: back = front' ++ mark :: back') : front = front' ∧ back = back' := by
  have inside {front : List Char} (first : mark ∉ front) : ∀ c ∈ front, (c != mark) = true :=
    fun c member => bne_iff_ne.mpr fun here => first (here ▸ member)
  obtain ⟨fronts, backs⟩ := append_inj_of_ends (inside first) (inside first')
    (by simp) (by simp) same
  exact ⟨fronts, (List.cons.inj backs).2⟩

theorem append_cons_inj_of_last (last : mark ∉ back) (last' : mark ∉ back')
    (same : front ++ mark :: back = front' ++ mark :: back') : front = front' ∧ back = back' := by
  have turned : back.reverse ++ mark :: front.reverse = back'.reverse ++ mark :: front'.reverse := by
    simpa using congrArg List.reverse same
  obtain ⟨backs, fronts⟩ := append_cons_inj_of_first (mt List.mem_reverse.mp last)
    (mt List.mem_reverse.mp last') turned
  exact ⟨List.reverse_inj.mp fronts, List.reverse_inj.mp backs⟩

/-- Lines that hold no break are told by the text that sets breaks between them. -/
theorem lines_inj {lines lines' : List String} (filled : lines ≠ []) (filled' : lines' ≠ [])
    (unbroken : ∀ line ∈ lines, '\n' ∉ line.toList)
    (unbroken' : ∀ line ∈ lines', '\n' ∉ line.toList)
    (same : "\n".intercalate lines = "\n".intercalate lines') : lines = lines' := by
  have split {lines : List String} (filled : lines ≠ [])
      (unbroken : ∀ line ∈ lines, '\n' ∉ line.toList) :
      ("\n".intercalate lines).toList.splitOn '\n' = lines.map String.toList := by
    rw [String.toList_intercalate]
    exact List.splitOn_intercalate '\n' (List.forall_mem_map.mpr unbroken)
      (mt List.map_eq_nil_iff.mp filled)
  have lists : lines.map String.toList = lines'.map String.toList := by
    rw [← split filled unbroken, same, split filled' unbroken']
  exact (List.map_inj_right fun _ _ => String.toList_inj.mp).mp lists

end Parts

section Numbers

variable {Number : Type} [ToString Number]

/-- Numbers that are spelled with digits and a sign, no two of them alike. -/
structure Numerals (Number : Type) [ToString Number] : Prop where
  digits : ∀ number : Number, ∀ c ∈ (toString number).toList, c = '-' ∨ c.isDigit = true
  told : ∀ {number other : Number}, toString number = toString other → number = other

theorem numerals_nat : Numerals Nat where
  digits number c member := by
    rw [Nat.toString_eq_repr, Nat.toList_repr] at member
    exact .inr (Nat.isDigit_of_mem_toDigits (by decide) (by decide) member)
  told := Nat.repr_inj.mp

theorem numerals_int : Numerals Int where
  digits number c member := by
    cases number with
    | ofNat number => exact numerals_nat.digits number c member
    | negSucc number =>
      have signed : (toString (Int.negSucc number)).toList =
          '-' :: (toString (number + 1)).toList := String.toList_append
      rw [signed] at member
      rcases List.mem_cons.mp member with sign | digit
      · exact .inl sign
      · exact numerals_nat.digits (number + 1) c digit
  told := Int.repr_inj.mp

theorem Numerals.not_mem (numerals : Numerals Number) (mark : Char) (unsigned : mark ≠ '-')
    (other : mark.isDigit = false) (number : Number) : mark ∉ (toString number).toList := by
  intro member
  rcases numerals.digits number mark member with sign | digit
  · exact unsigned sign
  · cases digit.symm.trans other

end Numbers

end Descent.Text
