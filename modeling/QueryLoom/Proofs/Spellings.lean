import QueryLoom.Proofs.Guard

/-!
# Spellings of operators

The text of an operator is the one text that comes from a user of the program. It is looked up and
never written: whatever the text, what stands in a statement is one of twelve spellings.

* `Text.Spaced`, `Text.words_eq_iff` : the words of a text are what stands between its white space;
* `Operator.canonical`, `Operator.parse?_eq_some_iff` : an operator is found for the texts whose
  words, in upper case and with one space between them, are its spelling;
* `Condition.Spelled`, `Condition.Spelled.outcome_of_unlisted` : what becomes of a condition whose
  operator is spelled in another way;
* `operators_canonical` : all of it, for every chain.
-/

namespace QueryLoom

/-! ## Words -/

namespace Text

/-- The words of a text: each is a run of characters that are no white space, with any amount of
white space before it, and the text ends or goes on with white space behind it. -/
inductive Spaced : List Char → List (List Char) → Prop
  | blank {cs : List Char} (blanks : ∀ c ∈ cs, isBlank c = true) : Spaced cs []
  | word {lead w cs : List Char} {ws : List (List Char)} (blanks : ∀ c ∈ lead, isBlank c = true)
      (some : w ≠ []) (solid : ∀ c ∈ w, isBlank c = false)
      (ends : ∀ c ∈ cs.head?, isBlank c = true) (rest : Spaced cs ws) :
      Spaced (lead ++ w ++ cs) (w :: ws)

/-- A text that starts with a word. -/
theorem Spaced.start {w cs : List Char} {ws : List (List Char)} (some : w ≠ [])
    (solid : ∀ c ∈ w, isBlank c = false) (ends : ∀ c ∈ cs.head?, isBlank c = true)
    (rest : Spaced cs ws) : Spaced (w ++ cs) (w :: ws) := by
  simpa using Spaced.word (List.forall_mem_nil _) some solid ends rest

theorem Spaced.empty : Spaced [] [] := .blank (List.forall_mem_nil _)

/-- White space in front adds no word. -/
theorem words_skip {lead : List Char} (blanks : ∀ c ∈ lead, isBlank c = true) (cs : List Char) :
    words (lead ++ cs) = words cs := by
  induction lead with
  | nil => rfl
  | cons c lead ih =>
    obtain ⟨blank, rest⟩ := List.forall_mem_cons.1 blanks
    rw [List.cons_append, words, if_pos blank, ih rest]

/-- A run of characters is a word of its own when white space follows. -/
theorem words_append {w cs : List Char} (some : w ≠ []) (solid : ∀ c ∈ w, isBlank c = false)
    (ends : ∀ c ∈ cs.head?, isBlank c = true) : words (w ++ cs) = w :: words cs := by
  induction w with
  | nil => exact absurd rfl some
  | cons c w ih =>
    obtain ⟨here, rest⟩ := List.forall_mem_cons.1 solid
    have first : ¬ isBlank c = true := by simp [here]
    cases w with
    | nil =>
      rw [List.singleton_append, words, if_neg first]
      cases cs with
      | nil => rfl
      | cons d cs =>
        have blank : isBlank d = true := ends d rfl
        cases words (d :: cs) with
        | nil => rfl
        | cons v ws => exact if_pos blank
    | cons d w =>
      have more := ih (List.cons_ne_nil d w) rest
      have second : ¬ isBlank d = true := by simp [rest d List.mem_cons_self]
      rw [List.cons_append, words, if_neg first, more]
      exact if_neg second

theorem words_of_spaced {cs : List Char} {ws : List (List Char)} (h : Spaced cs ws) :
    words cs = ws := by
  induction h with
  | blank blanks =>
    have skipped := words_skip blanks []
    rwa [List.append_nil] at skipped
  | word blanks some solid ends rest ih =>
    rw [List.append_assoc, words_skip blanks, words_append some solid ends, ih]

/-- White space in front of a text. -/
theorem Spaced.skip {c : Char} {cs : List Char} {ws : List (List Char)} (h : Spaced cs ws)
    (blank : isBlank c = true) : Spaced (c :: cs) ws := by
  cases h with
  | blank blanks => exact .blank (List.forall_mem_cons.2 ⟨blank, blanks⟩)
  | word blanks some solid ends rest =>
    exact .word (List.forall_mem_cons.2 ⟨blank, blanks⟩) some solid ends rest

/-- Any other character in front of a text opens a word, or lengthens the first one. -/
theorem Spaced.attach {c : Char} {cs : List Char} {ws : List (List Char)} (h : Spaced cs ws)
    (solid : isBlank c = false) : Spaced (c :: cs) (attach c cs ws) := by
  have alone (ends : ∀ d ∈ cs.head?, isBlank d = true) : Spaced (c :: cs) ([c] :: ws) :=
    .start (List.cons_ne_nil c []) (by simpa using solid) ends h
  cases h with
  | blank blanks =>
    have ends : ∀ d ∈ cs.head?, isBlank d = true := fun d first =>
      blanks d (List.mem_of_mem_head? first)
    cases cs <;> exact alone ends
  | @word lead w cs ws blanks some inner ends rest =>
    cases lead with
    | cons d lead =>
      have blank : isBlank d = true := blanks d List.mem_cons_self
      simp only [List.cons_append, Text.attach, if_pos blank]
      refine alone fun e first => ?_
      cases first
      exact blank
    | nil =>
      cases w with
      | nil => exact absurd rfl some
      | cons d w =>
        have other : ¬ isBlank d = true := by simp [inner d List.mem_cons_self]
        simp only [List.nil_append, List.cons_append, Text.attach, if_neg other]
        exact .start (List.cons_ne_nil c _) (List.forall_mem_cons.2 ⟨solid, inner⟩) ends rest

theorem spaced_words (cs : List Char) : Spaced cs (words cs) := by
  induction cs with
  | nil => exact .empty
  | cons c cs ih =>
    rw [words]
    split
    · rename_i blank
      exact ih.skip blank
    · rename_i other
      exact ih.attach (by simpa using other)

/-- The words of a text are what stands between its white space. -/
theorem words_eq_iff {cs : List Char} {ws : List (List Char)} : words cs = ws ↔ Spaced cs ws :=
  ⟨fun same => same ▸ spaced_words cs, words_of_spaced⟩

/-- A change of characters that keeps white space apart changes the words and nothing else. -/
theorem Spaced.map {f : Char → Char} (keeps : ∀ c, isBlank (f c) = isBlank c) {cs : List Char}
    {ws : List (List Char)} (h : Spaced cs ws) : Spaced (cs.map f) (ws.map (List.map f)) := by
  induction h with
  | blank blanks => exact .blank (by simpa [keeps] using blanks)
  | word blanks some solid ends rest ih =>
    rw [List.map_append, List.map_append, List.map_cons]
    exact .word (by simpa [keeps] using blanks) (by simpa using some)
      (by simpa [keeps] using solid) (by simpa [keeps] using ends) ih

/-- White space has no upper case, and no upper case is white space. -/
theorem isBlank_toUpper (c : Char) : isBlank c.toUpper = isBlank c := by
  unfold Char.toUpper
  split
  · rename_i small
    simp only [UInt32.le_iff_toNat_le] at small
    have lower : 97 ≤ c.toNat ∧ c.toNat ≤ 122 := small
    have moved : (c.val + ('A'.val - 'a'.val)).toNat = c.toNat - 32 := by
      have back : ('A'.val - 'a'.val).toNat = 4294967264 := by decide
      rw [UInt32.toNat_add, back, show c.val.toNat = c.toNat from rfl]
      omega
    rw [show isBlank c = false from isBlank_of_visible (by omega) (by omega)]
    refine isBlank_of_visible ?_ ?_
    · show 33 ≤ (c.val + ('A'.val - 'a'.val)).toNat
      omega
    · show (c.val + ('A'.val - 'a'.val)).toNat ≤ 126
      omega
  · rfl

/-- Words have characters, and none of them is white space. -/
theorem Spaced.solid {cs : List Char} {ws : List (List Char)} (h : Spaced cs ws) :
    ∀ w ∈ ws, w ≠ [] ∧ ∀ c ∈ w, isBlank c = false := by
  induction h with
  | blank => simp
  | word _ some solid _ _ ih => exact List.forall_mem_cons.2 ⟨⟨some, solid⟩, ih⟩

/-- Words with one space between them are found again. -/
theorem spaced_intercalate {ws : List (List Char)}
    (solid : ∀ w ∈ ws, w ≠ [] ∧ ∀ c ∈ w, isBlank c = false) :
    Spaced ([' '].intercalate ws) ws := by
  induction ws with
  | nil => exact .empty
  | cons w ws ih =>
    obtain ⟨⟨some, inner⟩, others⟩ := List.forall_mem_cons.1 solid
    cases ws with
    | nil =>
      simpa using Spaced.start some inner (by simp) .empty
    | cons v ws =>
      have behind : Spaced (' ' :: [' '].intercalate (v :: ws)) (v :: ws) := (ih others).skip rfl
      rw [List.intercalate_cons_cons, List.append_assoc]
      exact .start some inner (by rintro c ⟨⟩; rfl) behind

end Text

/-! ## Lookup -/

namespace Operator

/-- A text in canonical form: its words in upper case, with one space between them. -/
def canonical (text : String) : String :=
  " ".intercalate ((Text.words text.toList).map fun w => String.ofList (w.map Char.toUpper))

/-- The spellings of the operators. -/
def spellings : List String :=
  ["=", "<>", "!=", ">", "<", ">=", "<=", "LIKE", "NOT LIKE", "IN", "NOT IN", "BETWEEN"]

theorem mem_spellings_iff {s : String} : s ∈ spellings ↔ ∃ op : Operator, op.spelling = s := by
  have listed : all.map spelling = spellings := by decide +kernel
  rw [← listed, List.mem_map]
  exact ⟨fun ⟨op, _, same⟩ => ⟨op, same⟩, fun ⟨op, same⟩ => ⟨op, mem_all op, same⟩⟩

/-- Upper case is the same before and after a text is split. -/
theorem upperWords_eq (text : String) :
    upperWords text = (Text.words text.toList).map fun w => String.ofList (w.map Char.toUpper) := by
  have split := Text.words_of_spaced ((Text.spaced_words text.toList).map Text.isBlank_toUpper)
  rw [upperWords, split, List.map_map]
  rfl

/-- Words are found again in what is joined of them. -/
theorem intercalate_injective {vs ws : List String}
    (first : ∀ w ∈ vs, w.toList ≠ [] ∧ ∀ c ∈ w.toList, Text.isBlank c = false)
    (second : ∀ w ∈ ws, w.toList ≠ [] ∧ ∀ c ∈ w.toList, Text.isBlank c = false)
    (same : " ".intercalate vs = " ".intercalate ws) : vs = ws := by
  have found {us : List String}
      (solid : ∀ w ∈ us, w.toList ≠ [] ∧ ∀ c ∈ w.toList, Text.isBlank c = false) :
      Text.words (" ".intercalate us).toList = us.map String.toList := by
    rw [String.toList_intercalate]
    exact Text.words_of_spaced (Text.spaced_intercalate (List.forall_mem_map.2 solid))
  have texts : vs.map String.toList = ws.map String.toList := by
    rw [← found first, same, found second]
  exact List.map_injective_iff.2 (fun _ _ => String.toList_inj.1) texts

theorem solid_words (op : Operator) :
    ∀ w ∈ op.words, w.toList ≠ [] ∧ ∀ c ∈ w.toList, Text.isBlank c = false := by
  have each : (op.words.all fun w =>
      !w.toList.isEmpty && w.toList.all fun c => !Text.isBlank c) = true := by
    cases op with
    | scalar op => cases op <;> rfl
    | isIn | notIn | between => rfl
  simpa using each

/-- An operator is found for the texts that have its spelling as their canonical form. -/
theorem parse?_eq_some_iff {text : String} {op : Operator} :
    parse? text = some op ↔ canonical text = op.spelling := by
  rw [parse?, ofWords?_eq_some_iff, canonical, ← upperWords_eq, spelling]
  constructor
  · intro same
    rw [same]
  · intro same
    refine (intercalate_injective ?_ ?_ same).symm
    · rw [upperWords, List.forall_mem_map]
      simpa using (Text.spaced_words _).solid
    · exact solid_words op

theorem exists_parse?_iff {text : String} :
    (∃ op, parse? text = some op) ↔ canonical text ∈ spellings := by
  rw [mem_spellings_iff]
  exact exists_congr fun op => parse?_eq_some_iff.trans eq_comm

end Operator

/-! ## Conditions -/

namespace Condition

/-- The conditions for which a caller spells the operator, with its text. -/
inductive Spelled : Condition → String → Prop
  | compare (field text : String) (v : Value) : Spelled (.compare field (.spelled text) v) text
  | number (field text digits : String) : Spelled (.number field (.spelled text) digits) text
  | numeral (field text : String) (n : Int64) : Spelled (.numeral field (.spelled text) n) text

/-- The error about a text that has to be a number and is none. -/
def coercion? : Condition → Option BuildError
  | .number field _ digits =>
    match Text.IntRange.int64.read digits.toList with
    | .ok _ => none
    | .error fault => some (.coercion field digits fault.message)
  | _ => none

variable {c : Condition} {text : String} {skipZero : Bool} {p : Predicate}

/-- A condition asks for the operator that its caller spelled. -/
theorem Spelled.given_eq {field : String} {given : Operator.Given} {x : Operand}
    (h : c.Spelled text) (asks : c.Asks field given x) : given = .spelled text := by
  cases h <;> cases asks <;> rfl

/-- The operator of an accepted condition is written in the canonical form of what its caller
spelled. -/
theorem Spelled.canonical_eq (h : c.Spelled text) (accepted : c.Accepted p) :
    Operator.canonical text = p.operator.spelling := by
  obtain ⟨given, asks, names⟩ := accepted.asks
  obtain rfl := h.given_eq asks
  cases names with
  | spelled found => exact Operator.parse?_eq_some_iff.1 found

/-- Without an operator of that spelling a condition is left out when it is about a zero that the
caller does not want, and rejected otherwise: for a text that is no number, or else for the
operator. -/
theorem Spelled.outcome_of_unlisted (h : c.Spelled text)
    (unlisted : Operator.canonical text ∉ Operator.spellings) (skipZero : Bool) :
    c.outcome skipZero =
      if skipZero && c.isZero then .skipped
      else .rejected (c.coercion?.getD (.unknownOperator text)) := by
  have unknown : Operator.parse? text = none :=
    Option.eq_none_iff_forall_ne_some.2 fun op found =>
      unlisted (Operator.exists_parse?_iff.1 ⟨op, found⟩)
  have unresolved : (Operator.Given.spelled text).resolve = .error (.unknownOperator text) := by
    rw [Operator.Given.resolve, unknown]
  refine if_congr Iff.rfl rfl ?_
  cases h with
  | compare field _ v => simp [attempt, build, unresolved, coercion?, Outcome.ofExcept]
  | numeral field _ n => simp [attempt, build, unresolved, coercion?, Outcome.ofExcept]
  | number field _ digits =>
    -- the text is read before the operator is looked up
    cases read : Text.IntRange.int64.read digits.toList with
    | ok n => simp [attempt, build, unresolved, coercion?, Outcome.ofExcept, read]
    | error fault => simp [attempt, coercion?, read]

/-- An operator is reported as unknown when its caller spelled none. -/
theorem exists_spelled_of_unknown (h : c.outcome skipZero = .rejected (.unknownOperator text)) :
    c.Spelled text ∧ Operator.canonical text ∉ Operator.spellings := by
  cases settled_iff_outcome.2 h with
  | rejected _ rejected =>
    cases rejected with
    | unknown asks none =>
      refine ⟨?_, fun listed => ?_⟩
      · cases asks with
        | compare => exact .compare _ text _
        | number => exact .number _ text _
        | numeral => exact .numeral _ text _
      · obtain ⟨op, found⟩ := Operator.exists_parse?_iff.2 listed
        cases none.symm.trans found
    | misfit _ _ misfit => cases misfit

end Condition

/-! ## Main statement -/

/-- An operator is found for a text exactly when the words of the text, in upper case and with one
space between them, are one of the twelve spellings, and it is the operator with that spelling. The
words of a text are what stands between its white space, and an operator is found again under its
own spelling.

So every predicate of a chain, on a table or none, is written with one of these spellings, which is
the canonical form of what the caller gave; the `WHERE` part of every statement of the chain is made
of these predicates and of the fragments. The errors of a chain are those of its calls, in order: a
condition whose operator has none of the spellings is reported with the text as it was given, unless
it is about a zero that the caller does not want, which is left out, or about a text that has to be
a number and is none, which is reported in its place. Conversely every text that is reported is that
of such a condition. -/
theorem operators_canonical (table : Option String) (calls : List Call) :
    let d := ({ table := table } : Draft).applyAll calls
    (∀ text op, Operator.parse? text = some op ↔ Operator.canonical text = op.spelling) ∧
    (∀ text, (∃ op, Operator.parse? text = some op) ↔
      Operator.canonical text ∈ Operator.spellings) ∧
    (∀ cs ws, Text.words cs = ws ↔ Text.Spaced cs ws) ∧
    (∀ op : Operator, Operator.parse? op.spelling = some op) ∧
    (∀ p ∈ d.predicates,
      p.operator.spelling ∈ Operator.spellings ∧
        p.text = p.field ++ " " ++ p.operator.spelling ++ " " ++ p.slots ∧
        ∃ skipZero c, Call.require skipZero c ∈ calls ∧ c.Settled skipZero (.accepted p) ∧
          ∀ text, c.Spelled text → p.operator.spelling = Operator.canonical text) ∧
    (∀ e : Draft, e.predicates = d.predicates → e.fragments = d.fragments →
      ∀ kind s, e.compile kind = .ok s → kind ≠ .insert → d.HasWhereText s.sql) ∧
    d.errors = calls.filterMap Call.offence ∧
    (∀ skipZero c text, c.Spelled text → Operator.canonical text ∉ Operator.spellings →
      Call.offence (.require skipZero c) =
        if skipZero && c.isZero then none
        else some (c.coercion?.getD (.unknownOperator text))) ∧
    ∀ text, .unknownOperator text ∈ d.errors → ∃ skipZero c, Call.require skipZero c ∈ calls ∧
      c.Spelled text ∧ Operator.canonical text ∉ Operator.spellings := by
  intro d
  have gathered : d.predicates = calls.filterMap Call.predicate? :=
    Draft.predicates_applyAll _ calls
  have recorded : d.errors = calls.filterMap Call.offence := Draft.errors_applyAll _ calls
  refine ⟨fun text op => Operator.parse?_eq_some_iff, fun text => Operator.exists_parse?_iff,
    fun cs ws => Text.words_eq_iff, Operator.parse?_spelling, fun p member => ⟨?_, ?_, ?_⟩,
    fun e predicates fragments kind s compiled rows => ?_, recorded,
    fun skipZero c text spelled unlisted => ?_, fun text member => ?_⟩
  · exact Operator.mem_spellings_iff.2 ⟨p.operator, rfl⟩
  · rw [p.text_eq, Operator.opening]
    simp only [String.append_assoc]
  · rw [gathered, List.mem_filterMap] at member
    obtain ⟨call, member, added⟩ := member
    obtain ⟨skipZero, c, rfl, settled⟩ := Call.predicate?_eq_some_iff.1 added
    refine ⟨skipZero, c, member, settled, fun text spelled => ?_⟩
    cases settled with
    | accepted _ accepted => exact (spelled.canonical_eq accepted).symm
  · obtain ⟨front, back, same⟩ := Draft.hasWhereText_of_compile compiled rows
    have written : e.whereText = d.whereText := by
      rw [Draft.whereText, Draft.whereText, Draft.hasWhere, Draft.conditionTexts, predicates,
        fragments]
      rfl
    exact ⟨front, back, written ▸ same⟩
  · simp only [Call.offence, spelled.outcome_of_unlisted unlisted]
    cases skipZero && c.isZero <;> rfl
  · rw [recorded, List.mem_filterMap] at member
    obtain ⟨call, member, recorded⟩ := member
    obtain ⟨skipZero, c, rfl, settled⟩ := Call.offence_eq_some_iff.1 recorded
    exact ⟨skipZero, c, member,
      Condition.exists_spelled_of_unknown (Condition.settled_iff_outcome.1 settled)⟩

/-- A condition about a zero that is left out leaves no trace of an operator that there is not. -/
theorem unknown_operator_left_out :
    ¬ ∀ (table : Option String) (calls : List Call) (skipZero : Bool) (c : Condition)
      (text : String), Call.require skipZero c ∈ calls → c.Spelled text →
        Operator.canonical text ∉ Operator.spellings →
          .unknownOperator text ∈ (({ table := table } : Draft).applyAll calls).errors := by
  intro recorded
  have unlisted : Operator.canonical "~" ∉ Operator.spellings := by decide
  have member := recorded (some "users") [.require true (.compare "age" (.spelled "~") (.int32 0))]
    true _ "~" List.mem_cons_self (.compare "age" "~" (.int32 0)) unlisted
  cases member

end QueryLoom
