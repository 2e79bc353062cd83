import Descent.Lexer

/-! Where matches end.

A pattern hands on a place at or behind the one where it begins, and none behind the end of the
text. So does the lexer, which asks its combined pattern.
-/

set_option autoImplicit false

namespace Descent

namespace Matching

variable {source : Source} {body : Follow → Follow} {follow : Follow} {progress result : Progress}

def Onward (source : Source) (body : Follow → Follow) : Prop :=
  ∀ {follow progress result}, progress.position ≤ source.size →
    body follow progress = some result →
      ∃ reached : Progress, follow reached = some result ∧
        progress.position ≤ reached.position ∧ reached.position ≤ source.size

theorem charAt?_eq_some {position : Nat} {c : Char} (there : charAt? source position = some c) :
    position < source.size := by
  unfold charAt? at there
  exact (Array.getElem?_eq_some_iff.mp there).1

theorem orElse_eq_some {first : Option Progress} {second : Unit → Option Progress}
    (found : orElse first second = some result) : first = some result ∨ second () = some result := by
  cases first with
  | some progress => exact .inl found
  | none => exact .inr found

theorem sameText_within {rules : Rules} {a b length : Nat} (inside : b ≤ source.size)
    (same : sameText source rules a b length = true) : b + length ≤ source.size := by
  induction length generalizing a b with
  | zero => exact inside
  | succ length ih =>
    unfold sameText at same
    split at same
    · rename_i there
      have := ih (charAt?_eq_some there) (Bool.and_eq_true_iff.mp same).2
      omega
    · cases same

theorem Onward.pass {next : Follow → Follow} (first : Onward source body)
    (second : Onward source next) : Onward source fun follow => body (next follow) := by
  intro follow progress result inside found
  obtain ⟨halfway, found, ahead, within⟩ := first inside found
  obtain ⟨reached, found, further, last⟩ := second within found
  exact ⟨reached, found, Nat.le_trans ahead further, last⟩

theorem onward_self : Onward source fun follow => follow :=
  fun inside found => ⟨_, found, Nat.le_refl _, inside⟩

theorem onward_exactly (onward : Onward source body) (count : Nat) :
    Onward source (exactly body count) := by
  induction count with
  | zero => exact onward_self
  | succ count ih => exact onward.pass ih

theorem onward_upTo (onward : Onward source body) (lazy : Bool) (fuel : Nat)
    (most last : Option Nat) : Onward source fun follow => upTo body lazy follow fuel most last := by
  induction fuel generalizing most last with
  | zero => exact onward_self
  | succ fuel ih =>
    intro follow progress result inside found
    have leave (found : follow progress = some result) :
        ∃ reached, follow reached = some result ∧ progress.position ≤ reached.position ∧
          reached.position ≤ source.size := onward_self inside found
    have again (found : body (upTo body lazy follow fuel (most.map (· - 1))
        (some progress.position)) progress = some result) :=
      onward.pass (ih (most.map (· - 1)) (some progress.position)) inside found
    dsimp only [upTo] at found
    split at found
    · exact leave found
    · split at found
      · exact (orElse_eq_some found).elim leave again
      · exact (orElse_eq_some found).elim again leave

end Matching

namespace Pattern

open Matching

variable {source : Source} {pattern : Pattern} {position : Nat} {progress : Progress}

theorem onward_run (source : Source) (pattern : Pattern) : Onward source (pattern.run source) := by
  induction pattern with
  | empty => exact onward_self
  | one test =>
    intro follow progress result inside found
    unfold run at found
    split at found
    · rename_i there
      split at found
      · exact ⟨_, found, Nat.le_succ _, charAt?_eq_some there⟩
      · cases found
    · cases found
  | anchor place =>
    intro follow progress result inside found
    unfold run at found
    split at found
    · exact onward_self inside found
    · cases found
  | sequence first second ihFirst ihSecond => exact ihFirst.pass ihSecond
  | choice left right ihLeft ihRight =>
    intro follow progress result inside found
    exact (orElse_eq_some found).elim (ihLeft inside) (ihRight inside)
  | repeated body least most lazy ih =>
    intro follow progress result inside found
    obtain ⟨halfway, found, ahead, within⟩ := onward_exactly ih least inside found
    obtain ⟨reached, found, further, last⟩ := onward_upTo ih lazy _ _ _ within found
    exact ⟨reached, found, Nat.le_trans ahead further, last⟩
  | group index body ih =>
    intro follow progress result inside found
    unfold run at found
    obtain ⟨reached, found, ahead, within⟩ := @ih _ (progress.reopen index) _ inside found
    exact ⟨_, found, ahead, within⟩
  | conditional index yes no ihYes ihNo =>
    intro follow progress result inside found
    unfold run at found
    split at found
    · exact ihYes inside found
    · exact ihNo inside found
  | reference index rules =>
    intro follow progress result inside found
    unfold run at found
    split at found
    · cases found
    · dsimp only at found
      split at found
      · rename_i same
        exact ⟨_, found, Nat.le_add_right _ _, sameText_within inside same⟩
      · cases found
  | look behind negated body ih =>
    -- What is looked at may lie elsewhere; the place that is handed on is the same.
    intro follow progress result inside found
    unfold run at found
    dsimp only at found
    split at found
    · exact ⟨_, found, Nat.le_refl _, inside⟩
    · exact ⟨_, found, Nat.le_refl _, inside⟩
    · cases found
  | atomic body ih =>
    intro follow progress result inside found
    unfold run at found
    split at found
    · rename_i inner matched
      obtain ⟨reached, same, ahead, within⟩ := ih inside matched
      cases same
      exact ⟨_, found, ahead, within⟩
    · cases found

theorem matchAt_within (inside : position ≤ source.size)
    (found : pattern.matchAt source position = some progress) :
    position ≤ progress.position ∧ progress.position ≤ source.size := by
  obtain ⟨reached, same, ahead, within⟩ := onward_run source pattern inside found
  cases same
  exact ⟨ahead, within⟩

end Pattern

theorem Lexer.findAt_within {lexer : Lexer} {source : Array Char} {position : Nat} {found : Find}
    (inside : position ≤ source.size) (finds : lexer.findAt source position = some found) :
    position ≤ found.stop ∧ found.stop ≤ source.size := by
  obtain ⟨progress, matched, rfl⟩ := Option.map_eq_some_iff.mp finds
  exact Pattern.matchAt_within inside matched

end Descent
