import Descent.Proofs.Lexing.Combined
import Descent.Proofs.Lexing.Lexemes

/-! The first pattern that matches wins.

What a lexer finds at a place is told by the patterns one by one: its kind is the first whose
pattern alone matches there, and the lexeme is what that pattern alone matches. Groups inside of
patterns have no say in this.
-/

set_option autoImplicit false

namespace Descent

namespace Lexer

open Reader

section Alone

variable [CharNames]

/-- Where a pattern, matched alone at a position of the source, stops. -/
def stopAlone (source : Array Char) (position : Nat) (pattern : String) : Option Nat :=
  match NamedPattern.ofString pattern with
  | .ok named => (named.pattern.matchAt source position).map Progress.position
  | .error _ => none

/-- A kind is the first in the list whose pattern alone matches at a position. -/
def Wins (patterns : List (String × String)) (source : Array Char) (position : Nat) (kind : String)
    (stop : Nat) : Prop :=
  ∃ earlier pattern later, patterns = earlier ++ (kind, pattern) :: later ∧
    (∀ entry ∈ earlier, stopAlone source position entry.2 = none) ∧
    stopAlone source position pattern = some stop

variable {patterns : List (String × String)} {skip : List String} {lexer : Lexer}
  {source : Array Char} {position : Nat}

def findAlone (source : Array Char) (position : Nat) (entry : String × String) : Option Find :=
  (stopAlone source position entry.2).map fun stop => ⟨some entry.1, stop⟩

/-- The group that is closed last is that of the kind, whatever groups are closed before it. -/
theorem Splices.find {names : List (String × Nat)} {entry : String × String} {alternative : Pattern}
    (splices : Splices names entry alternative) :
    (alternative.matchAt source position).map (fun progress => Find.mk
        (progress.captures.head?.bind fun capture =>
          (names.find? fun name => name.2 == capture.group).map Prod.fst) progress.position) =
      findAlone source position entry := by
  obtain ⟨named, index, compiled, rfl, found⟩ := splices
  have injective : (index + ·).Injective := fun _ _ => Nat.add_left_cancel
  unfold findAlone stopAlone
  rw [Pattern.matchAt_group injective, compiled, Option.map_map, Option.map_map]
  refine congrArg (Option.map · _) (funext fun progress => ?_)
  simp only [Function.comp, List.head?_cons, Option.bind_some, found, Option.map_some]

theorem findSome?_splices {names : List (String × Nat)} {find : Pattern → Option Find}
    {alternatives : List Pattern} (spliced : List.Forall₂ (Splices names) patterns alternatives)
    (each : ∀ {entry alternative}, Splices names entry alternative →
      find alternative = findAlone source position entry) :
    alternatives.findSome? find = patterns.findSome? (findAlone source position) := by
  induction spliced with
  | nil => rfl
  | cons first _ ih => rw [List.findSome?_cons, List.findSome?_cons, each first, ih]

theorem findAt_eq (made : create patterns skip = .ok lexer) (compiles : Compiles patterns)
    (unnumbered : ∀ entry ∈ patterns, NamedPattern.numbers entry.2 = false) :
    lexer.findAt source position = patterns.findSome? (findAlone source position) := by
  obtain ⟨filled, kinds, combined, _⟩ := create_ok made
  obtain ⟨pieces, spelled, read⟩ := bind_eq_ok.mp combined
  cases spelled.symm.trans (ofChars_combine kinds compiles)
  obtain ⟨last, read, finished⟩ := bind_eq_ok.mp read
  obtain ⟨_, _, alternatives, spliced, split⟩ :=
    completes_combined filled kinds compiles unnumbered ⟨sound_initial, rfl, rfl⟩
      (completes_of_items read)
  have same := (finish_ok finished).2
  unfold findAt NamedPattern.nameOf?
  rw [same]
  cases spliced with
  | nil => exact absurd rfl filled
  | @cons entry alternative _ others first rest =>
    dsimp only
    rw [body_of_split split, Pattern.matchAt_alternatives, List.map_findSome?]
    exact findSome?_splices (.cons first rest) Splices.find

theorem findAt_eq_some (made : create patterns skip = .ok lexer) (compiles : Compiles patterns)
    (unnumbered : ∀ entry ∈ patterns, NamedPattern.numbers entry.2 = false) {kind : Option String}
    {stop : Nat} (found : lexer.findAt source position = some ⟨kind, stop⟩) :
    ∃ name, kind = some name ∧ Wins patterns source position name stop := by
  rw [findAt_eq made compiles unnumbered, List.findSome?_eq_some_iff] at found
  obtain ⟨earlier, ⟨name, pattern⟩, later, split, here, before⟩ := found
  unfold findAlone at here before
  obtain ⟨_, alone, same⟩ := Option.map_eq_some_iff.mp here
  cases same
  exact ⟨name, rfl, earlier, pattern, later, split,
    fun entry member => Option.map_eq_none_iff.mp (before entry member), alone⟩

theorem findAt_eq_none (made : create patterns skip = .ok lexer) (compiles : Compiles patterns)
    (unnumbered : ∀ entry ∈ patterns, NamedPattern.numbers entry.2 = false) :
    lexer.findAt source position = none ↔
      ∀ entry ∈ patterns, stopAlone source position entry.2 = none := by
  rw [findAt_eq made compiles unnumbered, List.findSome?_eq_none_iff]
  exact forall₂_congr fun entry _ => Option.map_eq_none_iff

theorem Wins.not_none {kind : String} {stop : Nat} (wins : Wins patterns source position kind stop) :
    ¬∀ entry ∈ patterns, stopAlone source position entry.2 = none := by
  obtain ⟨earlier, pattern, later, rfl, _, alone⟩ := wins
  intro none
  cases alone.symm.trans (none (kind, pattern) (by simp))

/-- What is found, in kinds that are skipped too, is found by the first pattern that alone matches at
its place, and is what this pattern matches. A character is unexpected where no pattern does. Names of
groups need no care: where one is given twice, or is that of a kind, there is no lexer. -/
theorem tokenize_precedence (made : create patterns skip = .ok lexer) (compiles : Compiles patterns)
    (unnumbered : ∀ entry ∈ patterns, NamedPattern.numbers entry.2 = false) (text : String) :
    let source := text.toList.toArray
    ∃ (matched : List Token) (offset : Nat), offset ≤ text.length ∧
      spelling matched = text.toList.take offset ∧
      (∀ earlier token later, matched = earlier ++ token :: later →
        ∃ stop, Wins patterns source (spelling earlier).length token.kind stop ∧
          token.lexeme.toList = (source.extract (spelling earlier).length stop).toList) ∧
      ((∃ c place, lexer.tokenize text = .error (.unexpected c place)) ↔
        offset < text.length ∧ ∀ entry ∈ patterns, stopAlone source offset entry.2 = none) ∧
      (offset = text.length ∧
          lexer.tokenize text = .ok (matched.filter fun token => !skip.contains token.kind) ∨
        (∃ c, text.toList[offset]? = some c ∧
          lexer.tokenize text = .error (.unexpected c (.behind (text.toList.take offset)))) ∨
        ∃ kind, offset < text.length ∧ Wins patterns source offset kind offset ∧
          lexer.tokenize text = .error (.emptyLexeme kind (.behind (text.toList.take offset)))) := by
  intro source
  obtain ⟨_, _, _, listed, rfl⟩ := create_ok made
  have named : ∀ offset < text.toList.length, ∀ found ∈ lexer.findAt source offset,
      ∃ entry ∈ lexer.patterns, found.kind = some entry.1 := by
    rintro offset _ ⟨kind, stop⟩ found
    obtain ⟨name, rfl, earlier, pattern, later, split, _⟩ :=
      findAt_eq_some made compiles unnumbered found
    exact ⟨(name, pattern), by rw [listed, split]; simp, rfl⟩
  -- Where the lexemes begin and end is up to the loop, whatever it is that finds them.
  obtain ⟨matched, offset, lexemes, inside, answer⟩ := cut_lexemes named (Nat.zero_le _)
  have scanned {answer : Except TokenError (List Token)}
      (cutting : cut (lexer.findAt source) source 0 (.behind (text.toList.take 0)) = answer) :
      lexer.tokenize text =
        answer.map fun tokens => tokens.filter fun token => !lexer.skip.contains token.kind :=
    congrArg (Except.map _) cutting
  rw [← String.length_toList]
  refine ⟨matched, offset, inside, lexemes.spelled, fun earlier token later split => ?_, ?_⟩
  · have cuts := lexemes.cuts split
    rw [Nat.zero_add] at cuts
    obtain ⟨_, same, wins⟩ := findAt_eq_some made compiles unnumbered cuts.found
    cases same
    refine ⟨_, wins, ?_⟩
    rw [List.prefix_iff_eq_take.mp cuts.spelled, Array.toList_extract, List.extract_eq_take_drop,
      String.length_toList, Nat.add_sub_cancel_left]
  · rcases answer with ⟨all, done⟩ | ⟨_, fails, broken⟩
    · have answered := scanned done
      refine ⟨⟨?_, fun more => absurd all more.1.ne⟩, .inl ⟨all, answered⟩⟩
      rintro ⟨c, place, unexpected⟩
      cases answered.symm.trans unexpected
    · have answered := scanned broken
      cases fails with
      | @unexpected c there none =>
        have more : offset < text.toList.length := (List.getElem?_eq_some_iff.mp there).1
        have alone := (findAt_eq_none made compiles unnumbered).mp none
        exact ⟨⟨fun _ => ⟨more, alone⟩, fun _ => ⟨_, _, answered⟩⟩, .inr (.inl ⟨c, there, answered⟩)⟩
      | @empty kind more found =>
        obtain ⟨_, same, wins⟩ := findAt_eq_some made compiles unnumbered found
        cases same
        refine ⟨⟨?_, fun none => absurd none.2 wins.not_none⟩,
          .inr (.inr ⟨kind, more, wins, answered⟩)⟩
        rintro ⟨c, place, unexpected⟩
        cases answered.symm.trans unexpected

end Alone

/-- A keyword that is not a part of a word, names that go on with what they begin with or with other
letters, numbers that are quoted on both sides or on none, and blanks. -/
def keywords : List (String × String) :=
  [("IF", "if(?!(?a:\\w))"), ("NAME", "(?P<first>[a-z])((?P=first)|[a-z])*"),
   ("NUMBER", "(?P<quote>\\N\x7bAPOSTROPHE\x7d)?[0-9]+(?(quote)')"), ("BLANK", " +")]

/-- A keyword is a name too, and comes first. The groups inside of names and numbers do not tell. -/
theorem tokenize_precedence_keywords :
    letI := CharNames.ascii
    ∃ lexer, create keywords ["BLANK"] = .ok lexer ∧ Compiles keywords ∧
      (∀ entry ∈ keywords, NamedPattern.numbers entry.2 = false) ∧
      lexer.tokenize "if iffy '7'" =
        .ok [⟨"if", "IF", 1, 1⟩, ⟨"iffy", "NAME", 1, 4⟩, ⟨"'7'", "NUMBER", 1, 9⟩] ∧
      lexer.tokenize "if iffy '7" = .error (.unexpected '\'' ⟨1, 9⟩) ∧
      (∀ entry ∈ keywords, stopAlone "if iffy '7".toList.toArray 8 entry.2 = none) ∧
      ∃ matched, spelling matched = "if iffy ".toList ∧ ∀ earlier token later,
        matched = earlier ++ token :: later →
          ∃ stop, Wins keywords "if iffy '7".toList.toArray (spelling earlier).length token.kind
            stop := by
  let _ := CharNames.ascii
  obtain ⟨both, read, plain⟩ :
      (create keywords ["BLANK"]).map (fun lexer =>
          (lexer.tokenize "if iffy '7'", lexer.tokenize "if iffy '7")) =
        .ok (.ok [⟨"if", "IF", 1, 1⟩, ⟨"iffy", "NAME", 1, 4⟩, ⟨"'7'", "NUMBER", 1, 9⟩],
          .error (.unexpected '\'' ⟨1, 9⟩)) ∧
        (keywords.all fun entry => (NamedPattern.ofString entry.2).isOk) = true ∧
        (keywords.any fun entry => NamedPattern.numbers entry.2) = false :=
    ⟨by cbv, by cbv, by cbv⟩
  have unnumbered : ∀ entry ∈ keywords, NamedPattern.numbers entry.2 = false := by
    simpa using plain
  have compiles : Compiles keywords := fun entry member => by
    have read := List.all_eq_true.mp read entry member
    cases same : NamedPattern.ofString entry.2 with
    | error =>
      rw [same] at read
      cases read
    | ok named => exact ⟨named, rfl⟩
  cases made : create keywords ["BLANK"] with
  | error =>
    rw [made] at both
    cases both
  | ok lexer =>
    rw [made] at both
    obtain ⟨cut, stuck⟩ := Prod.mk.inj (Except.ok.inj both)
    obtain ⟨matched, offset, inside, spelled, wins, fails, answer⟩ :=
      tokenize_precedence made compiles unnumbered "if iffy '7"
    obtain ⟨more, alone⟩ := fails.mp ⟨_, _, stuck⟩
    -- The place of the error tells the offset.
    have placed : Place.behind ("if iffy '7".toList.take offset) = ⟨1, 9⟩ := by
      rcases answer with ⟨_, found⟩ | ⟨_, _, found⟩ | ⟨_, _, _, found⟩
      · cases stuck.symm.trans found
      · exact (TokenError.unexpected.inj (Except.error.inj (stuck.symm.trans found))).2.symm
      · cases stuck.symm.trans found
    have last : ∀ offset < 10, Place.behind ("if iffy '7".toList.take offset) = ⟨1, 9⟩ →
        offset = 8 := by decide
    cases last offset more placed
    refine ⟨lexer, rfl, compiles, unnumbered, cut, stuck, alone, matched, spelled, ?_⟩
    intro earlier token later split
    obtain ⟨stop, first, _⟩ := wins earlier token later split
    exact ⟨stop, first⟩

end Lexer

end Descent
