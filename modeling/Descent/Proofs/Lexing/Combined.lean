import Mathlib.Data.List.Forall2
import Descent.Lexer
import Descent.Proofs.Lexing.Splicing

/-! The patterns of a lexer in one pattern.

They are put into one text, each in a group that carries its kind. Read as a whole, the text is a
choice between the patterns as they are read alone, in the order in which they are listed.
-/

set_option autoImplicit false

namespace Descent

namespace Piece

/-- The pieces of a text. There are none if nothing is behind the last backslash. -/
def ofText (text : String) : List Piece :=
  match ofChars text.toList with
  | .ok pieces => pieces
  | .error _ => []

theorem ofChars_escaped (c : Char) (rest : List Char) :
    ofChars ('\\' :: c :: rest) = (ofChars rest).map (escaped c :: ·) := by
  conv_lhs => unfold ofChars
  simp only
  cases ofChars rest <;> rfl

theorem ofChars_cons {c : Char} (plain_ : c ≠ '\\') (rest : List Char) :
    ofChars (c :: rest) = (ofChars rest).map (plain c :: ·) := by
  conv_lhs => unfold ofChars
  split
  · rename_i same
    cases same
  · rename_i same
    exact absurd (List.cons.inj same).1 plain_
  · rename_i same
    exact absurd (List.cons.inj same).1 plain_
  · rename_i same
    cases same
    cases ofChars rest <;> rfl

theorem ofChars_append {front : List Char} {pieces : List Piece} (read : ofChars front = .ok pieces)
    (back : List Char) : ofChars (front ++ back) = (ofChars back).map (pieces ++ ·) := by
  induction front using ofChars.induct generalizing pieces with
  | case1 =>
    cases read
    rw [List.nil_append]
    cases ofChars back <;> rfl
  | case2 => cases read
  | case3 c rest ih =>
    rw [ofChars_escaped] at read
    rw [List.cons_append, List.cons_append, ofChars_escaped]
    cases further : ofChars rest with
    | error error =>
      rw [further] at read
      cases read
    | ok others =>
      rw [further] at read
      cases read
      rw [ih further]
      cases ofChars back <;> rfl
  | case4 c rest single pair ih =>
    have other : c ≠ '\\' := by
      rintro rfl
      match rest with
      | [] => exact single rfl rfl
      | next :: rest => exact pair next rest rfl rfl
    rw [ofChars_cons other] at read
    rw [List.cons_append, ofChars_cons other]
    cases further : ofChars rest with
    | error error =>
      rw [further] at read
      cases read
    | ok others =>
      rw [further] at read
      cases read
      rw [ih further]
      cases ofChars back <;> rfl

theorem ofChars_plain {chars : List Char} (none : '\\' ∉ chars) :
    ofChars chars = .ok (chars.map plain) := by
  induction chars with
  | nil => rfl
  | cons c rest ih =>
    rw [List.mem_cons, not_or] at none
    rw [ofChars_cons (Ne.symm none.1), ih none.2]
    rfl

theorem ofText_eq [CharNames] {text : String} {named : NamedPattern}
    (compiles : NamedPattern.ofString text = .ok named) :
    ofChars text.toList = .ok (ofText text) := by
  obtain ⟨pieces, read, _⟩ := bind_eq_ok.mp compiles
  unfold ofText
  rw [read]

end Piece

theorem Text.not_mem_of_isIdentifier {name : String} (valid : isIdentifier name = true) {c : Char}
    (outside : isIdentifierRest c = false) : c ∉ name.toList := by
  have first : isIdentifierStart c = false := (Bool.or_eq_false_iff.mp outside).1
  intro member
  unfold isIdentifier at valid
  split at valid
  · cases valid
  · rename_i start rest same
    rw [same] at member
    obtain ⟨begins, goes⟩ := Bool.and_eq_true_iff.mp valid
    rcases List.mem_cons.mp member with rfl | member
    · cases begins.symm.trans first
    · cases (List.all_eq_true.mp goes c member).symm.trans outside

namespace Lexer

def entryPieces (entry : String × String) : List Piece :=
  ("(?P<".toList ++ entry.1.toList ++ [ '>' ]).map .plain ++ Piece.ofText entry.2 ++ [.plain ')']

def combinedPieces : List (String × String) → List Piece
  | [] => []
  | [entry] => entryPieces entry
  | entry :: next :: rest => entryPieces entry ++ .plain '|' :: combinedPieces (next :: rest)

variable {patterns : List (String × String)} {skip : List String} {lexer : Lexer}

def Compiles [CharNames] (patterns : List (String × String)) : Prop :=
  ∀ entry ∈ patterns, ∃ named, NamedPattern.ofString entry.2 = .ok named

theorem ofChars_entry [CharNames] {entry : String × String} (kind : Text.isIdentifier entry.1 = true)
    {named : NamedPattern} (compiles : NamedPattern.ofString entry.2 = .ok named)
    (more : List Char) :
    Piece.ofChars (("(?P<" ++ entry.1 ++ ">" ++ entry.2 ++ ")").toList ++ more) =
      (Piece.ofChars more).map (entryPieces entry ++ ·) := by
  have front : '\\' ∉ "(?P<".toList ++ entry.1.toList ++ [ '>' ] := by
    have inside := Text.not_mem_of_isIdentifier kind (c := '\\') (by decide)
    simp [inside]
  have spelled : ("(?P<" ++ entry.1 ++ ">" ++ entry.2 ++ ")").toList ++ more =
      ("(?P<".toList ++ entry.1.toList ++ [ '>' ]) ++ (entry.2.toList ++ ')' :: more) := by
    simp
  rw [spelled, Piece.ofChars_append (Piece.ofChars_plain front),
    Piece.ofChars_append (Piece.ofText_eq compiles), Piece.ofChars_cons (by decide)]
  unfold entryPieces
  cases Piece.ofChars more with
  | error => rfl
  | ok pieces => simp [Except.map]

theorem ofChars_combine [CharNames] (kinds : ∀ entry ∈ patterns, Text.isIdentifier entry.1 = true)
    (compiles : Compiles patterns) :
    Piece.ofChars (combine patterns).toList = .ok (combinedPieces patterns) := by
  induction patterns with
  | nil => rfl
  | cons entry rest ih =>
    obtain ⟨_, compiled⟩ := compiles entry List.mem_cons_self
    have first := @ofChars_entry _ entry (kinds entry List.mem_cons_self) _ compiled
    cases rest with
    | nil =>
      have alone := first []
      rw [List.append_nil] at alone
      unfold combine
      rw [List.map_singleton, String.intercalate_singleton, alone]
      exact congrArg Except.ok (List.append_nil _)
    | cons next rest =>
      have later := ih (fun other member => kinds other (List.mem_cons_of_mem _ member))
        fun other member => compiles other (List.mem_cons_of_mem _ member)
      have split : (combine (entry :: next :: rest)).toList =
          ("(?P<" ++ entry.1 ++ ">" ++ entry.2 ++ ")").toList ++
            '|' :: (combine (next :: rest)).toList := by
        unfold combine
        rw [List.map_cons, List.map_cons, String.intercalate_cons_cons, String.toList_append,
          String.toList_append, List.append_assoc]
        rfl
      rw [split, first, Piece.ofChars_cons (by decide), later]
      rfl

theorem checkKinds_ok {seen kinds : List String} (checked : checkKinds seen kinds = .ok ()) :
    ∀ kind ∈ kinds, Text.isIdentifier kind = true := by
  induction kinds generalizing seen with
  | nil => nofun
  | cons kind rest ih =>
    unfold checkKinds at checked
    split at checked
    · cases checked
    · rename_i valid
      split at checked
      · cases checked
      · intro other member
        rcases List.mem_cons.mp member with rfl | member
        · simpa using valid
        · exact ih checked other member

theorem create_ok [CharNames] (made : create patterns skip = .ok lexer) :
    patterns ≠ [] ∧ (∀ entry ∈ patterns, Text.isIdentifier entry.1 = true) ∧
      NamedPattern.ofString (combine patterns) = .ok lexer.combined ∧ lexer.patterns = patterns ∧
      lexer.skip = skip := by
  unfold create at made
  split at made
  · cases made
  · rename_i filled
    obtain ⟨_, checked, made⟩ := bind_eq_ok.mp made
    split at made
    · rename_i combined compiled
      cases made
      refine ⟨by simpa using filled, fun entry member => ?_, compiled, rfl, rfl⟩
      exact checkKinds_ok checked entry.1 (List.mem_map_of_mem member)
    · cases made

end Lexer

namespace Reader

structure Ready (base : Reader) : Prop where
  sound : base.Sound
  outer : base.outer = []
  items : base.level.items = []

def behind (base : Reader) (kind : String) (final : Reader) : Reader :=
  { base.within kind final with
    level := base.level.add (.group base.next (final.level.body.renumber (base.next + ·))) .other
    outer := []
    widths := (base.next, final.level.body.width final.widthOf) :: (base.within kind final).widths
    mark := none }

variable {base final last : Reader} {kind : String} {more : List Piece}

theorem Ready.alone (ready : base.Ready) :
    base.level.bracket = .text ∧ base.level.flags = .cleared ∧ base.mark = none := by
  have nested := ready.sound.nested
  rw [ready.outer] at nested
  exact nested.alone

theorem item_plain [CharNames] {reader : Reader} (flags : reader.level.flags = .cleared) (c : Char)
    (rest : List Piece) : reader.item (.plain c) rest = reader.special c rest := by
  unfold item
  rw [flags]
  rfl

theorem until?_plain {terminator : Char} {chars : List Char} (inside : terminator ∉ chars) :
    Pieces.until? terminator (chars.map .plain ++ .plain terminator :: more) =
      some (chars.map .plain, more) := by
  induction chars with
  | nil => simp [Pieces.until?]
  | cons c rest ih =>
    rw [List.mem_cons, not_or] at inside
    have other : Piece.plain c ≠ .plain terminator := fun same =>
      inside.1 (Piece.plain.inj same).symm
    rw [List.map_cons, List.cons_append]
    unfold Pieces.until?
    rw [if_neg other, ih inside.2]
    rfl

theorem mapM_plain (chars : List Char) : (chars.map Piece.plain).mapM Piece.plain? = some chars := by
  induction chars with
  | nil => rfl
  | cons c rest ih =>
    rw [List.map_cons, List.mapM_cons, ih]
    rfl

theorem groupName_plain (valid : Text.isIdentifier kind = true) :
    Pieces.groupName '>' (kind.toList.map .plain ++ .plain '>' :: more) = .ok (kind, more) := by
  have taken : Pieces.textUntil? '>' (kind.toList.map .plain ++ .plain '>' :: more) =
      some (kind.toList, more) := by
    have name : Pieces.until? '>' (kind.toList.map .plain ++ .plain '>' :: more) =
        some (kind.toList.map .plain, more) :=
      until?_plain (Text.not_mem_of_isIdentifier valid (by decide))
    exact Option.bind_eq_some_iff.mpr ⟨_, name,
      Option.bind_eq_some_iff.mpr ⟨_, mapM_plain kind.toList, rfl⟩⟩
  unfold Pieces.groupName
  rw [taken]
  dsimp only
  rw [String.ofList_toList, if_pos valid]

theorem item_open [CharNames] (ready : base.Ready) (valid : Text.isIdentifier kind = true) {between : Reader}
    {rest : List Piece}
    (read : base.item (.plain '(') (("?P<".toList ++ kind.toList ++ [ '>' ]).map .plain ++ more) =
      .ok (between, rest)) : between = base.within kind .initial ∧ rest = more := by
  obtain ⟨_, flags, mark⟩ := ready.alone
  have spelled : ("?P<".toList ++ kind.toList ++ [ '>' ]).map Piece.plain ++ more =
      .plain '?' :: .plain 'P' :: .plain '<' :: (kind.toList.map .plain ++ .plain '>' :: more) := by
    simp
  rw [spelled, item_plain flags] at read
  unfold special extension at read
  simp only [groupName_plain valid] at read
  obtain ⟨_, named, read⟩ := bind_eq_ok.mp read
  cases named
  obtain ⟨_, opens, read⟩ := bind_eq_ok.mp read
  cases read
  refine ⟨?_, rfl⟩
  unfold openCapturing at opens
  dsimp only at opens
  split at opens
  · cases opens
  · cases opens
    have outer := ready.outer
    obtain ⟨level, _, next, names, widths, _⟩ := base
    dsimp only at flags mark outer ⊢
    subst mark outer
    unfold enter
    dsimp only
    rw [flags]
    rfl

theorem close_behind (older : base.Older) (sound : final.Sound) (closed : final.outer = []) :
    (base.within kind final).close = .ok (base.behind kind final) := by
  obtain ⟨bracket, _, mark⟩ : final.level.bracket = .text ∧ final.level.flags = .cleared ∧
      final.mark = none := by
    have nested := sound.nested
    rw [closed] at nested
    exact nested.alone
  have body : (base.within kind final).level.body =
      final.level.body.renumber (base.next + ·) := Level.body_shift _ _
  have width : (final.level.body.renumber (base.next + ·)).width (base.within kind final).widthOf =
      final.level.body.width final.widthOf :=
    Pattern.width_renumber (widthOf_within older) _
  have outer : (base.within kind final).outer = [base.level] := by
    unfold within
    rw [closed]
    rfl
  have opened : (base.within kind final).level.bracket = .capturing base.next := by
    show final.level.bracket.shift (base.next + ·) = _
    rw [bracket]
    rfl
  have marked : (base.within kind final).mark = none := by
    show final.mark.map (base.next + ·) = _
    rw [mark]
    rfl
  unfold close
  rw [outer, opened, body]
  dsimp only
  rw [width, marked]
  rfl

theorem sound_behind (ready : base.Ready) (sound : final.Sound) :
    (base.behind kind final).Sound := by
  obtain ⟨bracket, flags, _⟩ := ready.alone
  have begun := sound.begun
  refine ⟨.text bracket flags, Nat.add_pos_right _ begun, ?_, ?_, ?_⟩
  -- What was there before has lower numbers, and what the pattern brings is moved above them.
  · intro entry member
    show entry.2 < base.next + final.next
    rcases List.mem_append.mp member with old | member
    · exact Nat.lt_add_right _ (ready.sound.names entry old)
    · rcases List.mem_cons.mp member with rfl | member
      · exact Nat.lt_add_of_pos_right begun
      · obtain ⟨name, among, rfl⟩ := List.mem_map.mp member
        exact Nat.add_lt_add_left (sound.names name among) _
  · intro entry member
    show entry.1 < base.next + final.next
    rcases List.mem_cons.mp member with rfl | member
    · exact Nat.lt_add_of_pos_right begun
    · rcases List.mem_append.mp member with member | old
      · obtain ⟨width, among, rfl⟩ := List.mem_map.mp member
        exact Nat.add_lt_add_left (sound.widths width among) _
      · exact Nat.lt_add_right _ (ready.sound.widths entry old)
  · intro level member index capturing
    cases List.mem_singleton.mp member
    cases bracket.symm.trans capturing

theorem Ready.bar (ready : base.Ready) (sound : final.Sound) :
    Ready { base.behind kind final with level := (base.behind kind final).level.bar } :=
  ⟨(sound_behind ready sound).fill rfl rfl, rfl, rfl⟩

theorem completes_entry [CharNames] (ready : base.Ready) {entry : String × String}
    (valid : Text.isIdentifier entry.1 = true) {limit : Nat}
    (alone : items limit initial (Piece.ofText entry.2) = .ok final)
    (unnumbered : numbers limit initial (Piece.ofText entry.2) = false) (closed : final.outer = [])
    (whole : Completes base (Lexer.entryPieces entry ++ more) last) :
    Completes (base.behind entry.1 final) more last ∧ final.Sound := by
  have spelled : Lexer.entryPieces entry ++ more = .plain '(' ::
      (("?P<".toList ++ entry.1.toList ++ [ '>' ]).map .plain ++
        (Piece.ofText entry.2 ++ .plain ')' :: more)) := by
    unfold Lexer.entryPieces
    simp
  rw [spelled] at whole
  cases whole with
  | item read whole =>
    obtain ⟨rfl, rfl⟩ := item_open ready valid read
    obtain ⟨whole, sound⟩ := items_within ready.sound.widths sound_initial nofun alone unnumbered
      closed whole
    refine ⟨?_, sound⟩
    cases whole with
    | item read whole =>
      have flags : (base.within entry.1 final).level.flags = .cleared := by
        have nested := sound.nested
        rw [closed] at nested
        exact nested.alone.2.1
      rw [item_plain flags] at read
      obtain ⟨_, closes, read⟩ := bind_eq_ok.mp read
      cases (close_behind ready.sound.widths sound closed).symm.trans closes
      cases read
      exact whole

theorem alternative_behind (ready : base.Ready) :
    (base.behind kind final).level.alternative =
      (Pattern.group base.next (final.level.body.renumber (base.next + ·))).sequence .empty := by
  unfold behind Level.alternative Level.add
  rw [ready.items]
  rfl

theorem finish_ok {reader : Reader} {named : NamedPattern} (finishes : reader.finish = .ok named) :
    reader.outer = [] ∧ named = ⟨reader.level.body, reader.names⟩ := by
  unfold finish at finishes
  split at finishes
  · rename_i closed
    split at finishes
    · cases finishes
      exact ⟨closed, rfl⟩
    · cases finishes
  · cases finishes

theorem body_of_split {level : Level} {first : Pattern} {rest : List Pattern}
    (split : level.finished.reverse ++ [level.alternative] = first :: rest) :
    level.body = Pattern.alternatives first rest := by
  unfold Level.body
  cases finished : level.finished.reverse with
  | nil =>
    rw [finished] at split
    cases split
    rfl
  | cons other others =>
    rw [finished] at split
    cases split
    rfl

end Reader

def NamedPattern.numbers [CharNames] (text : String) : Bool :=
  match Piece.ofChars text.toList with
  | .ok pieces => Reader.numbers pieces.length .initial pieces
  | .error _ => false

theorem NamedPattern.items_of_ofString [CharNames] {text : String} {named : NamedPattern}
    (compiles : NamedPattern.ofString text = .ok named) :
    ∃ final, Reader.items (Piece.ofText text).length .initial (Piece.ofText text) = .ok final ∧
      final.outer = [] ∧ named.pattern = final.level.body := by
  obtain ⟨pieces, spelled, read⟩ := bind_eq_ok.mp compiles
  cases spelled.symm.trans (Piece.ofText_eq compiles)
  obtain ⟨final, read, finished⟩ := bind_eq_ok.mp read
  obtain ⟨closed, same⟩ := Reader.finish_ok finished
  exact ⟨final, read, closed, congrArg NamedPattern.pattern same⟩

namespace Lexer

open Reader

variable [CharNames]

/-- An alternative of the combined pattern is a pattern as it is alone, with its groups numbered
otherwise, in a group that carries the kind. -/
def Splices (names : List (String × Nat)) (entry : String × String) (alternative : Pattern) : Prop :=
  ∃ named index, NamedPattern.ofString entry.2 = .ok named ∧
    alternative = (Pattern.group index (named.pattern.renumber (index + ·))).sequence .empty ∧
    names.find? (fun name => name.2 == index) = some (entry.1, index)

variable {patterns : List (String × String)} {base last : Reader}

theorem Splices.mono {names more : List (String × Nat)} {entry : String × String}
    {alternative : Pattern} (splices : Splices names entry alternative) :
    Splices (names ++ more) entry alternative := by
  obtain ⟨named, index, compiled, same, found⟩ := splices
  refine ⟨named, index, compiled, same, ?_⟩
  rw [List.find?_append, found]
  rfl

theorem splices_behind (ready : base.Ready) {entry : String × String} {named : NamedPattern}
    {final : Reader} (compiled : NamedPattern.ofString entry.2 = .ok named)
    (body : named.pattern = final.level.body) :
    Splices (base.behind entry.1 final).names entry (base.behind entry.1 final).level.alternative := by
  refine ⟨named, base.next, compiled, ?_, ?_⟩
  · rw [body]
    exact alternative_behind ready
  · have absent : base.names.find? (fun name => name.2 == base.next) = none := by
      refine List.find?_eq_none.mpr fun name member => ?_
      have older := ready.sound.names name member
      simp [Nat.ne_of_lt older]
    show (base.names ++ (entry.1, base.next) :: _).find? _ = _
    rw [List.find?_append, absent]
    simp

/-- The combined pattern is read as the choice between the patterns. -/
theorem completes_combined (filled : patterns ≠ [])
    (kinds : ∀ entry ∈ patterns, Text.isIdentifier entry.1 = true) (compiles : Compiles patterns)
    (unnumbered : ∀ entry ∈ patterns, NamedPattern.numbers entry.2 = false) (ready : base.Ready)
    (whole : Completes base (combinedPieces patterns) last) :
    last.outer = [] ∧ (∃ more, last.names = base.names ++ more) ∧
      ∃ alternatives, List.Forall₂ (Splices last.names) patterns alternatives ∧
        last.level.finished.reverse ++ [last.level.alternative] =
          base.level.finished.reverse ++ alternatives := by
  induction patterns generalizing base with
  | nil => exact absurd rfl filled
  | cons entry rest ih =>
    obtain ⟨named, compiled⟩ := compiles entry List.mem_cons_self
    obtain ⟨final, alone, closed, body⟩ := NamedPattern.items_of_ofString compiled
    have plain : Reader.numbers (Piece.ofText entry.2).length .initial (Piece.ofText entry.2) =
        false := by
      have plain := unnumbered entry List.mem_cons_self
      unfold NamedPattern.numbers at plain
      rwa [Piece.ofText_eq compiled] at plain
    have valid := kinds entry List.mem_cons_self
    cases rest with
    | nil =>
      have alone' : Completes base (entryPieces entry ++ []) last := by
        rwa [List.append_nil]
      obtain ⟨ended, _⟩ := completes_entry ready valid alone plain closed alone'
      cases ended
      exact ⟨rfl, ⟨_, rfl⟩, _, .cons (splices_behind ready compiled body) .nil, rfl⟩
    | cons next rest =>
      obtain ⟨whole, sound⟩ := completes_entry ready valid alone plain closed whole
      -- Behind the group of the entry comes the bar, and the rest is read as another alternative.
      cases whole with
      | item read whole =>
        have flags : (base.behind entry.1 final).level.flags = .cleared := ready.alone.2.1
        rw [item_plain flags] at read
        cases read
        obtain ⟨outer, ⟨more, names⟩, alternatives, spliced, split⟩ := ih (List.cons_ne_nil _ _)
          (fun other member => kinds other (List.mem_cons_of_mem _ member))
          (fun other member => compiles other (List.mem_cons_of_mem _ member))
          (fun other member => unnumbered other (List.mem_cons_of_mem _ member))
          (ready.bar sound) whole
        have first := splices_behind ready compiled body
        refine ⟨outer, ?_, (base.behind entry.1 final).level.alternative :: alternatives,
          .cons ?_ spliced, ?_⟩
        · rw [names]
          exact ⟨_, List.append_assoc ..⟩
        · rw [names]
          exact first.mono
        · rw [split]
          have earlier : (base.behind entry.1 final).level.bar.finished.reverse =
              base.level.finished.reverse ++ [(base.behind entry.1 final).level.alternative] :=
            List.reverse_cons
          rw [earlier, List.append_assoc]
          rfl

end Lexer

end Descent
