import Descent.Proofs.Recursion.Report

/-! The words of the brackets.

The nonterminal between two brackets repeats, so that a pair encloses any number of pairs. The
goal does not repeat: a word is empty, or one pair around all the rest. What follows a closed pair
is left over, and what is never closed is lost at the end.
-/

set_option autoImplicit false

namespace Descent

namespace Brackets

def opens (tokens : List Token) : Nat := tokens.countP (·.lexeme == "a")

def closes (tokens : List Token) : Nat := tokens.countP (·.lexeme == "b")

/-- The first bracket is closed by the last: as many close as open, and before the end there are
always some that are open still. -/
structure Enclosed (tokens : List Token) : Prop where
  filled : tokens ≠ []
  balanced : opens tokens = closes tokens
  unclosed : ∀ count, 0 < count → count < tokens.length →
    closes (tokens.take count) < opens (tokens.take count)

/-- How many of the first tokens open, less those that close. -/
def height (tokens : List Token) (count : Nat) : Int :=
  opens (tokens.take count) - closes (tokens.take count)

section Height

variable {tokens : List Token} {token : Token} {count : Nat}

theorem height_zero : height tokens 0 = 0 := by
  simp [height, opens, closes]

theorem height_length : height tokens tokens.length = opens tokens - closes tokens := by
  rw [height, List.take_length]

theorem opens_take_succ (there : tokens[count]? = some token) :
    opens (tokens.take (count + 1)) =
      opens (tokens.take count) + if token.lexeme == "a" then 1 else 0 := by
  unfold opens
  rw [List.take_add_one, there, List.countP_append, Option.toList_some, List.countP_singleton]

theorem closes_take_succ (there : tokens[count]? = some token) :
    closes (tokens.take (count + 1)) =
      closes (tokens.take count) + if token.lexeme == "b" then 1 else 0 := by
  unfold closes
  rw [List.take_add_one, there, List.countP_append, Option.toList_some, List.countP_singleton]

theorem enclosed_iff : Enclosed tokens ↔ tokens ≠ [] ∧ height tokens tokens.length = 0 ∧
    ∀ count, 0 < count → count < tokens.length → 0 < height tokens count := by
  rw [height_length]
  unfold height
  constructor
  · rintro ⟨filled, balanced, unclosed⟩
    refine ⟨filled, by omega, fun count more before => ?_⟩
    have := unclosed count more before
    omega
  · rintro ⟨filled, balanced, unclosed⟩
    refine ⟨filled, by omega, fun count more before => ?_⟩
    have := unclosed count more before
    omega

theorem height_opening (there : tokens[count]? = some token) (opened : token.lexeme = "a") :
    height tokens (count + 1) = height tokens count + 1 := by
  unfold height
  rw [opens_take_succ there, closes_take_succ there, opened, if_pos (by decide),
    if_neg (by decide)]
  omega

theorem height_closing (there : tokens[count]? = some token) (closed : token.lexeme = "b") :
    height tokens (count + 1) = height tokens count - 1 := by
  unfold height
  rw [opens_take_succ there, closes_take_succ there, closed, if_neg (by decide),
    if_pos (by decide)]
  omega

end Height

def Above (tokens : List Token) (place stop : Nat) : Prop :=
  ∀ count, place ≤ count → count ≤ stop → height tokens place ≤ height tokens count

def Rests (tokens : List Token) (place : Nat) : Prop :=
  ∀ token, tokens[place]? = some token → token.lexeme ≠ "a"

/-- What comes of brackets that begin at a place. There is no opening bracket, or the bracket is
closed at the first place that is as high, or the tokens end before it is closed. -/
inductive Pairs {Value : Type} (tokens : List Token) (cursor : Spot tokens) :
    Answer tokens Value → Prop where
  | absent {value : Value} (rests : Rests tokens cursor) :
      Pairs tokens cursor (.derived value cursor)
  | closed {value : Value} {stop : Spot tokens} (ahead : cursor < stop)
      (level : height tokens stop = height tokens cursor)
      (inside : ∀ count, cursor.val < count → count < stop.val →
        height tokens cursor < height tokens count) :
      Pairs tokens cursor (.derived value stop)
  | unclosed {spot : Spot tokens} (ahead : cursor < spot)
      (inside : ∀ count, cursor.val < count → count ≤ tokens.length →
        height tokens cursor < height tokens count) :
      Pairs tokens cursor (.lost spot)

/-- What comes of pairs in a row, from a place on: all pairs that there are, up to a token that
does not open one, or a pair that is never closed. -/
inductive Rows (tokens : List Token) (cursor : Spot tokens) : Answer tokens (List Tree) → Prop where
  | derived {trees : List Tree} {stop : Spot tokens} (order : cursor ≤ stop)
      (level : height tokens stop = height tokens cursor) (above : Above tokens cursor stop)
      (rests : Rests tokens stop) : Rows tokens cursor (.derived trees stop)
  | unclosed {spot : Spot tokens} (ahead : cursor < spot)
      (above : Above tokens cursor tokens.length) : Rows tokens cursor (.lost spot)

section Recursion

variable {tokens : List Token} {cursor stop : Spot tokens}
  {expand : Spot tokens → Answer tokens Tree}

theorem Above.refl (place : Nat) : Above tokens place place := by
  intro count low high
  rw [Nat.le_antisymm low high]

theorem Above.of_inside {far : Nat}
    (inside : ∀ count, cursor.val < count → count < far → height tokens cursor < height tokens count)
    (level : height tokens cursor ≤ height tokens far) : Above tokens cursor far := by
  intro count low high
  rcases Nat.eq_or_lt_of_le low with rfl | later
  · exact le_rfl
  rcases Nat.eq_or_lt_of_le high with rfl | earlier
  · exact level
  · exact (inside count later earlier).le

theorem Above.trans {far : Nat} (first : Above tokens cursor stop)
    (level : height tokens stop = height tokens cursor) (second : Above tokens stop far) :
    Above tokens cursor far := by
  intro count low high
  rcases Nat.le_total count stop with before | behind
  · exact first count low before
  · rw [← level]
    exact second count behind high

theorem Rows.after {answer : Answer tokens (List Tree)} (order : cursor ≤ stop)
    (level : height tokens stop = height tokens cursor) (above : Above tokens cursor stop)
    (rows : Rows tokens stop answer) : Rows tokens cursor answer := by
  cases rows with
  | derived further same higher rests =>
    exact .derived (order.trans further) (same.trans level) (above.trans level higher) rests
  | unclosed ahead higher => exact .unclosed (order.trans_lt ahead) (above.trans level higher)

theorem Pairs.rows {answer : Answer tokens Tree} {row : Answer tokens (List Tree)}
    (pairs : Pairs tokens cursor answer)
    (absent : ∀ tree, answer = .derived tree cursor → ∃ trees, row = .derived trees cursor)
    (closed : ∀ tree stop, answer = .derived tree stop → cursor < stop →
      height tokens stop = height tokens cursor → Rows tokens stop row)
    (unclosed : ∀ spot, answer = .lost spot → cursor < spot → row = .lost spot) :
    Rows tokens cursor row := by
  cases pairs with
  | absent rests =>
    obtain ⟨trees, rfl⟩ := absent _ rfl
    exact .derived le_rfl rfl (.refl _) rests
  | closed ahead level inside =>
    exact .after ahead.le level (.of_inside inside level.ge) (closed _ _ rfl ahead level)
  | unclosed ahead inside =>
    rw [unclosed _ rfl ahead]
    refine .unclosed ahead (.of_inside (fun count low high => inside count low high.le) ?_)
    have order : cursor.val < tokens.length := by
      have := Fin.lt_def.mp ahead
      omega
    exact (inside _ order le_rfl).le

theorem repeated_rows
    (pairs : ∀ spot, cursor ≤ spot → height tokens spot = height tokens cursor →
      Pairs tokens spot (expand spot)) (trees : List Tree) :
    Rows tokens cursor (Recursion.repeated expand trees cursor) := by
  -- Every pair leaves fewer tokens.
  induction left : tokens.length - cursor.val using Nat.strongRecOn generalizing cursor trees with
  | ind left ih =>
    rw [Recursion.repeated]
    refine (pairs cursor le_rfl rfl).rows ?_ ?_ ?_
    · intro tree found
      rw [found]
      exact ⟨trees, if_neg (lt_irrefl cursor)⟩
    · intro tree stop found ahead level
      rw [found]
      dsimp only
      rw [if_pos ahead]
      refine ih _ ?_ (fun spot behind high => ?_) _ rfl
      · have : cursor.val < stop.val := ahead
        have := stop.isLt
        omega
      · exact pairs spot (ahead.le.trans behind) (high.trans level)
    · intro spot found ahead
      rw [found]
      exact if_neg ahead.ne'

theorem slot_rows {expand : String → Spot tokens → Answer tokens Tree}
    (pairs : ∀ spot, cursor ≤ spot → height tokens spot = height tokens cursor →
      Pairs tokens spot (expand "S" spot)) :
    Rows tokens cursor (Recursion.slot expand (.required (.nonTerminal symbol)) cursor) := by
  show Rows tokens cursor ((expand "S" cursor).follow fun tree stop =>
    if cursor < stop then Recursion.repeated (expand "S") [tree] stop else .derived [tree] stop)
  refine (pairs cursor le_rfl rfl).rows ?_ ?_ ?_
  · intro tree found
    rw [found]
    exact ⟨[tree], if_neg (lt_irrefl cursor)⟩
  · intro tree stop found ahead level
    rw [found]
    simp only [Answer.follow, if_pos ahead]
    exact repeated_rows (fun spot behind high =>
      pairs spot (ahead.le.trans behind) (high.trans level)) _
  · intro spot found ahead
    rw [found]
    rfl

theorem Pairs.map {Value Other : Type} {answer : Answer tokens Value}
    {build : Value → Spot tokens → Other} (pairs : Pairs tokens cursor answer) :
    Pairs tokens cursor (answer.follow fun value stop => .derived (build value stop) stop) := by
  cases pairs with
  | absent rests => exact .absent rests
  | closed ahead level inside => exact .closed ahead level inside
  | unclosed ahead inside => exact .unclosed ahead inside

theorem Pairs.otherwise {Value : Type} {answer : Answer tokens Value}
    {other : Unit → Answer tokens Value} (pairs : Pairs tokens cursor answer) :
    Pairs tokens cursor (answer.otherwise cursor other) := by
  cases pairs with
  | absent rests => exact .absent rests
  | closed ahead level inside => exact .closed ahead level inside
  | unclosed ahead inside =>
    rw [Answer.otherwise_apart ahead.ne']
    exact .unclosed ahead inside

end Recursion

section Words

variable {depth : Nat} {tokens : List Token} {cursor : Spot tokens} {below : List String}

theorem table_eq : (machine depth).table "S" = [[.required (.terminal opening),
    .required (.nonTerminal symbol), .required (.terminal closing)], []] := rfl

theorem foremost_eq (token : Option Token) : (machine depth).foremost "S" token = 0 := by
  cases token with
  | none => rfl
  | some token =>
    show (List.findIdx? _ [_, []]).getD 0 = 0
    rw [List.findIdx?_cons, List.findIdx?_cons, List.findIdx?_nil]
    split <;> rfl

theorem closing_pairs {expand : String → Spot tokens → Answer tokens Tree} {next : Spot tokens}
    {answer : Answer tokens (List Tree)}
    (brackets : ∀ token ∈ tokens, token.lexeme = "a" ∨ token.lexeme = "b")
    (one : next.val = cursor + 1) (higher : height tokens next = height tokens cursor + 1)
    (rows : Rows tokens next answer) :
    Pairs tokens cursor (answer.follow fun trees stop =>
      (Recursion.sequence expand [.required (.terminal closing)] stop).follow fun more last =>
        .derived (trees ++ more) last) := by
  -- Inside the pair all is higher than before it.
  have inside {far count : Nat} (above : Above tokens next far) (behind : cursor.val < count)
      (before : count ≤ far) : height tokens cursor < height tokens count := by
    have := above count (by omega) before
    omega
  cases rows with
  | @derived trees stop order level above rests =>
    have order : next.val ≤ stop.val := order
    simp only [Answer.follow, Recursion.sequence, Recursion.slot]
    cases there : tokens[stop.val]? with
    | none =>
      have all := List.getElem?_eq_none_iff.mp there
      have mismatch : Machine.Mismatch closing tokens[stop.val]? := fun token found =>
        absurd (there.symm.trans found) (Option.some_ne_none token).symm
      rw [Machine.leaf?_mismatch stop mismatch]
      refine .unclosed (Fin.lt_def.mpr (by omega)) fun count behind before => ?_
      exact inside above behind (before.trans all)
    | some token =>
      have closes : token.lexeme = "b" :=
        (brackets token (List.mem_of_getElem? there)).resolve_left (rests token there)
      have accepted : closing.accepts token = true := beq_iff_eq.mpr closes
      obtain ⟨last, one_more, found⟩ := Machine.leaf?_accepted stop there accepted
      rw [found]
      refine .closed (Fin.lt_def.mpr (by omega)) ?_ fun count behind before => ?_
      · rw [one_more, height_closing there closes]
        omega
      · exact inside above behind (by omega)
  | unclosed ahead above =>
    have ahead : next.val < _ := ahead
    exact .unclosed (Fin.lt_def.mpr (by omega)) fun _ behind before => inside above behind before

/-- What opens a pair is followed by a row, and that by what closes the pair. -/
theorem descend_pairs (brackets : ∀ token ∈ tokens, token.lexeme = "a" ∨ token.lexeme = "b")
    (room : ∀ count ≤ tokens.length, height tokens count < depth)
    (level : height tokens cursor = below.length) :
    Pairs tokens cursor ((machine depth).descend tokens below "S" cursor) := by
  induction left : tokens.length - cursor.val using Nat.strongRecOn generalizing cursor below with
  | ind left ih =>
    have fits : ¬(machine depth).maxDepth ≤ below.length := by
      have := room cursor (Nat.le_of_lt_succ cursor.isLt)
      show ¬depth ≤ below.length
      omega
    rw [Machine.descend, if_neg fits, foremost_eq, table_eq]
    refine Pairs.map ?_
    simp only [List.drop_zero, Recursion.choice]
    rcases Machine.mismatch_or_accepted opening tokens[cursor.val]? with
      mismatch | ⟨token, there, accepted⟩
    · simp only [Recursion.sequence, Recursion.slot, Machine.leaf?_mismatch cursor mismatch,
        Answer.follow, Answer.otherwise_start]
      exact .absent fun token there => beq_eq_false_iff_ne.mp (mismatch token there)
    · obtain ⟨next, one, found⟩ := Machine.leaf?_accepted cursor there accepted
      have higher : height tokens next = height tokens cursor + 1 := by
        rw [one, height_opening there (beq_iff_eq.mp accepted)]
      refine Pairs.otherwise ?_
      rw [Recursion.sequence, Recursion.slot]
      simp only [found]
      refine Pairs.map ?_
      refine closing_pairs brackets one higher (slot_rows fun spot behind high => ?_)
      have ahead : next.val ≤ spot.val := behind
      have := spot.isLt
      refine ih _ (by omega) ?_ rfl
      rw [high, higher, level, List.length_append, List.length_singleton]
      rfl

theorem Pairs.accepted {answer : Answer tokens Tree} (pairs : Pairs tokens 0 answer)
    (brackets : ∀ token ∈ tokens, token.lexeme = "a" ∨ token.lexeme = "b") :
    ∃ accepted, answer.report.1 = .ok accepted ∧
      (accepted = true ↔ tokens = [] ∨ Enclosed tokens) := by
  simp only [enclosed_iff]
  cases pairs with
  | absent rests =>
    refine ⟨_, rfl, ?_⟩
    cases tokens with
    | nil => simp
    | cons token rest =>
      -- The first bracket closes, and before it there is nothing to close.
      have closes : token.lexeme = "b" :=
        (brackets token List.mem_cons_self).resolve_left (rests token rfl)
      have low : height (token :: rest) 1 = 0 - 1 := by
        have down : height (token :: rest) (0 + 1) = _ := height_closing rfl closes
        rwa [height_zero] at down
      refine iff_of_false (by simp) ?_
      rintro (none | ⟨_, level, above⟩)
      · cases none
      rcases Nat.eq_zero_or_pos rest.length with none | more
      · rw [List.length_cons, none, low] at level
        cases level
      · have := above 1 Nat.one_pos (by rw [List.length_cons]; omega)
        omega
  | @closed tree stop ahead level inside =>
    refine ⟨_, rfl, ?_⟩
    have ahead : 0 < stop.val := ahead
    have order := Nat.le_of_lt_succ stop.isLt
    have level : height tokens stop = 0 := level.trans height_zero
    rw [decide_eq_true_iff]
    constructor
    · intro all
      refine .inr ⟨List.ne_nil_of_length_pos (all ▸ ahead), all ▸ level, fun count more before => ?_⟩
      have zero : height tokens 0 = 0 := height_zero
      rw [← zero]
      exact inside count more (by omega)
    · rintro (rfl | ⟨_, _, above⟩)
      · exact Nat.le_antisymm order (Nat.zero_le _)
      · refine (Nat.eq_or_lt_of_le order).resolve_right fun before => ?_
        have := above stop ahead before
        omega
  | @unclosed spot ahead inside =>
    refine ⟨_, rfl, iff_of_false nofun ?_⟩
    have ahead : 0 < spot.val := ahead
    have order := Nat.le_of_lt_succ spot.isLt
    rintro (rfl | ⟨_, level, _⟩)
    · exact absurd order (Nat.not_le_of_lt ahead)
    · have higher : height tokens 0 < height tokens tokens.length :=
        inside _ (Nat.lt_of_lt_of_le ahead order) le_rfl
      rw [height_zero, level] at higher
      exact lt_irrefl _ higher

/-- With room for all brackets that are open at once, a run accepts the empty word and the words
whose first bracket is closed by their last, and no others. -/
theorem derive_brackets (brackets : ∀ token ∈ tokens, token.lexeme = "a" ∨ token.lexeme = "b")
    (room : ∀ count ≤ tokens.length,
      opens (tokens.take count) - closes (tokens.take count) < depth) :
    ∃ accepted, ((machine depth).derive "S" tokens).result = .ok accepted ∧
      (accepted = true ↔ tokens = [] ∨ Enclosed tokens) := by
  have pairs : Pairs tokens 0 ((machine depth).descend tokens [] "S" 0) := by
    refine descend_pairs brackets (fun count inside => ?_) height_zero
    have := room count inside
    unfold height
    omega
  obtain ⟨accepted, answer, language⟩ := pairs.accepted brackets
  have known : (machine depth).Knows "S" := known depth
  have reported : Machine.report _ = _ := (machine depth).derive_report known tokens
  exact ⟨accepted, (congrArg Prod.fst reported).trans answer, language⟩

/-- Two pairs in a pair are a word, and a pair after a pair is none. -/
theorem derive_brackets_rows :
    let word := Brackets.tokens ["a", "a", "b", "a", "b", "b"]
    let row := Brackets.tokens ["a", "b", "a", "b"]
    (∀ token ∈ word, token.lexeme = "a" ∨ token.lexeme = "b") ∧
      (∀ count ≤ word.length, opens (word.take count) - closes (word.take count) < 3) ∧
      Enclosed word ∧ ((machine 3).derive "S" word).result = .ok true ∧
      ¬Enclosed row ∧ ((machine 3).derive "S" row).result = .ok false := by
  intro word row
  have brackets : ∀ token ∈ word, token.lexeme = "a" ∨ token.lexeme = "b" := by decide
  have room : ∀ count ≤ word.length, opens (word.take count) - closes (word.take count) < 3 := by
    decide
  have inside : ∀ count < word.length, 0 < count →
      closes (word.take count) < opens (word.take count) := by decide
  have word_enclosed : Enclosed word :=
    ⟨by decide, by decide, fun count more before => inside count before more⟩
  have row_open : ¬Enclosed row := fun enclosed =>
    absurd (enclosed.unclosed 2 (by decide) (by decide)) (by decide)
  obtain ⟨accepted, result, language⟩ := derive_brackets brackets room
  have others : ∀ token ∈ row, token.lexeme = "a" ∨ token.lexeme = "b" := by decide
  have flat : ∀ count ≤ row.length, opens (row.take count) - closes (row.take count) < 3 := by
    decide
  obtain ⟨rejected, lost, language'⟩ := derive_brackets others flat
  refine ⟨brackets, room, word_enclosed, ?_, row_open, ?_⟩
  · rw [result, language.mpr (.inr word_enclosed)]
  · cases rejected with
    | true => exact absurd (language'.mp rfl) (not_or_intro nofun row_open)
    | false => exact lost

end Words

end Brackets

end Descent
