import Mathlib.Data.List.Forall2
import QueryLoom.Draft.Call
import QueryLoom.Statement

/-!
# The conditions as a conjunction

What the `WHERE` part of a statement means when it is read as SQL reads it: `NOT` binds tighter than
`AND`, and `AND` tighter than `OR`.

* `Token`, `Spells` : the tokens of a condition, and the texts that spell them;
* `Formula` : what a condition says about its atoms;
* `Reads` : the grammar, one level for each precedence;
* `Reads.unique` : a list of tokens is read in one way at most;
* `where_conjunction` : the `WHERE` part says what all its parts say, as long as no fragment has an
  `OR` outside parentheses or stands alone;
* `where_escapes` : a fragment with such an `OR` lets rows through that a predicate excludes.
-/

namespace QueryLoom

/-! ## Tokens -/

/-- What a condition is made of: a structured predicate, or a text that combines no others. -/
inductive Atom where
  | structured (p : Predicate)
  | raw (text : String)
  deriving DecidableEq

/-- The text of an atom. -/
def Atom.text : Atom → String
  | .structured p => p.text
  | .raw text => text

/-- A token of a condition. -/
inductive Token where
  | atom (a : Atom)
  | and
  | or
  | not
  | opening
  | closing
  deriving DecidableEq

/-- The texts of a token. A keyword may be written in any case. -/
def Token.Text : Token → List Char → Prop
  | .atom a, cs => cs = a.text.toList
  | .and, cs => cs.map Char.toUpper = ['A', 'N', 'D']
  | .or, cs => cs.map Char.toUpper = ['O', 'R']
  | .not, cs => cs.map Char.toUpper = ['N', 'O', 'T']
  | .opening, cs => cs = ['(']
  | .closing, cs => cs = [')']

/-- The text consists of the tokens, with white space around them. -/
inductive Spells : List Token → List Char → Prop where
  | nil : Spells [] []
  | blank {ts : List Token} {c : Char} {cs : List Char} (white : c.isWhitespace = true)
      (rest : Spells ts cs) : Spells ts (c :: cs)
  | token {t : Token} {ts : List Token} {cs ds : List Char} (text : t.Text cs)
      (rest : Spells ts ds) : Spells (t :: ts) (cs ++ ds)

namespace Spells

variable {ts us : List Token} {cs ds : List Char}

theorem append (h : Spells ts cs) (k : Spells us ds) : Spells (ts ++ us) (cs ++ ds) := by
  induction h with
  | nil => exact k
  | blank white _ ih => exact .blank white ih
  | token text _ ih =>
    rw [List.append_assoc]
    exact .token text ih

theorem single {t : Token} (h : t.Text cs) : Spells [t] cs := by
  simpa using Spells.token h .nil

end Spells

/-! ## Formulas -/

/-- What a condition says about its atoms. -/
inductive Formula where
  | atom (a : Atom)
  | not (φ : Formula)
  | and (φ ψ : Formula)
  | or (φ ψ : Formula)
  deriving DecidableEq

/-- Whether a formula is true when its atoms are as given. -/
def Formula.holds (v : Atom → Bool) : Formula → Bool
  | .atom a => v a
  | .not φ => !φ.holds v
  | .and φ ψ => φ.holds v && ψ.holds v
  | .or φ ψ => φ.holds v || ψ.holds v

/-! ## The grammar -/

/-- The levels of precedence, the tightest first. -/
inductive Level where
  | factor
  | conjunction
  | disjunction

/-- The formula as which some tokens are read at a level. -/
inductive Reads : Level → List Token → Formula → Prop where
  | atom (a : Atom) : Reads .factor [.atom a] (.atom a)
  | not {ts : List Token} {φ : Formula} (h : Reads .factor ts φ) :
      Reads .factor (.not :: ts) (.not φ)
  | parenthesized {ts : List Token} {φ : Formula} (h : Reads .disjunction ts φ) :
      Reads .factor (.opening :: ts ++ [.closing]) φ
  | single {ts : List Token} {φ : Formula} (h : Reads .factor ts φ) : Reads .conjunction ts φ
  | and {ts us : List Token} {φ ψ : Formula} (h : Reads .conjunction ts φ)
      (k : Reads .factor us ψ) : Reads .conjunction (ts ++ .and :: us) (.and φ ψ)
  | alone {ts : List Token} {φ : Formula} (h : Reads .conjunction ts φ) : Reads .disjunction ts φ
  | or {ts us : List Token} {φ ψ : Formula} (h : Reads .disjunction ts φ)
      (k : Reads .conjunction us ψ) : Reads .disjunction (ts ++ .or :: us) (.or φ ψ)

/-! ## Reading from left to right -/

/-- What was read since the last parenthesis that is still open: the alternatives that are complete,
the factors of the last one, and the negations of the factor to come. -/
structure Frame where
  alternatives : Option Formula := none
  factors : Option Formula := none
  negations : Nat := 0

/-- A formula negated so many times. -/
def Formula.negated (φ : Formula) : Nat → Formula
  | 0 => φ
  | n + 1 => φ.not.negated n

namespace Frame

/-- One more factor. -/
def take (f : Frame) (φ : Formula) : Frame :=
  let ψ := φ.negated f.negations
  { f with factors := some (f.factors.elim ψ fun χ => χ.and ψ), negations := 0 }

/-- All that was read. -/
def value (f : Frame) : Option Formula :=
  f.factors.map fun φ => f.alternatives.elim φ fun χ => χ.or φ

end Frame

/-- Reads tokens one by one; `operand` says whether a factor is due, and the frames behind the first
belong to the parentheses around it. -/
def scan : List Token → (operand : Bool) → Frame → List Frame → Option Formula
  | [], false, f, [] => f.value
  | .atom a :: ts, true, f, outer => scan ts false (f.take (.atom a)) outer
  | .not :: ts, true, f, outer => scan ts true { f with negations := f.negations + 1 } outer
  | .opening :: ts, true, f, outer => scan ts true {} (f :: outer)
  | .and :: ts, false, f, outer => scan ts true f outer
  | .or :: ts, false, f, outer => scan ts true { alternatives := f.value } outer
  | .closing :: ts, false, f, g :: outer =>
    match f.value with
    | none => none
    | some φ => scan ts false (g.take φ) outer
  | _, _, _, _ => none

/-- What the scan makes of tokens that are read at a level. -/
def Scans (ts : List Token) (φ : Formula) : Level → Prop
  | .factor => ∀ rest f outer, scan (ts ++ rest) true f outer = scan rest false (f.take φ) outer
  | .conjunction => ∀ rest alternatives outer,
      scan (ts ++ rest) true { alternatives := alternatives } outer =
        scan rest false { alternatives := alternatives, factors := some φ } outer
  | .disjunction => ∀ rest outer, ∃ f : Frame, f.value = some φ ∧
      scan (ts ++ rest) true {} outer = scan rest false f outer

/-- The scan follows the grammar. -/
theorem Reads.scans {level : Level} {ts : List Token} {φ : Formula} (h : Reads level ts φ) :
    Scans ts φ level := by
  induction h with
  | atom a => exact fun rest f outer => rfl
  | not _ ih =>
    intro rest f outer
    exact ih rest { f with negations := f.negations + 1 } outer
  | parenthesized _ ih =>
    intro rest f outer
    obtain ⟨g, value, inside⟩ := ih (.closing :: rest) (f :: outer)
    simp only [List.cons_append, List.append_assoc, List.nil_append, scan, inside, value]
  | single _ ih =>
    intro rest alternatives outer
    exact ih rest { alternatives := alternatives } outer
  | and _ _ ih ih' =>
    intro rest alternatives outer
    rw [List.append_assoc, ih, List.cons_append, scan, ih']
    rfl
  | alone _ ih =>
    intro rest outer
    exact ⟨_, rfl, ih rest none outer⟩
  | or _ _ ih ih' =>
    rename_i us φ ψ _ _
    intro rest outer
    obtain ⟨f, value, first⟩ := ih (.or :: us ++ rest) outer
    refine ⟨{ alternatives := some φ, factors := some ψ }, rfl, ?_⟩
    rw [List.append_assoc, first, List.cons_append, scan, value, ih']

/-- A list of tokens is read in one way at most. -/
theorem Reads.unique {ts : List Token} {φ ψ : Formula} (h : Reads .disjunction ts φ)
    (k : Reads .disjunction ts ψ) : φ = ψ := by
  have scanned {χ : Formula} (reads : Reads .disjunction ts χ) : scan ts true {} [] = some χ := by
    obtain ⟨f, value, whole⟩ := reads.scans [] []
    rw [List.append_nil] at whole
    rw [whole, scan, value]
  exact Option.some_inj.1 ((scanned h).symm.trans (scanned k))

/-! ## `OR` outside parentheses -/

/-- Whether there is an `OR` outside parentheses; `depth` of them are open at first. -/
def hasOuterOr : (depth : Nat) → List Token → Bool
  | _, [] => false
  | depth, .opening :: ts => hasOuterOr (depth + 1) ts
  | depth, .closing :: ts => hasOuterOr (depth - 1) ts
  | 0, .or :: _ => true
  | depth, _ :: ts => hasOuterOr depth ts

/-- What is read closes its own parentheses, and an `OR` of its own is found outside of them only in
a disjunction. -/
theorem Reads.hasOuterOr_append {level : Level} {ts : List Token} {φ : Formula}
    (h : Reads level ts φ) {depth : Nat} (inner : level = .disjunction → depth ≠ 0)
    (rest : List Token) : hasOuterOr depth (ts ++ rest) = hasOuterOr depth rest := by
  induction h generalizing depth rest with
  | atom a => cases depth <;> rfl
  | not _ ih =>
    rw [List.cons_append, ← ih (by simp) rest]
    cases depth <;> rfl
  | parenthesized _ ih =>
    have inside := @ih (depth + 1) (by simp) (.closing :: rest)
    rw [List.cons_append, List.cons_append, List.append_assoc, List.singleton_append, hasOuterOr,
      inside, hasOuterOr, Nat.add_sub_cancel]
  | single _ ih => exact ih (by simp) rest
  | and _ _ ih ih' =>
    rw [List.append_assoc, ih (by simp), List.cons_append, ← ih' (by simp) rest]
    cases depth <;> rfl
  | alone _ ih => exact ih (by simp) rest
  | or _ _ ih ih' =>
    rw [List.append_assoc, ih inner, List.cons_append, ← ih' (by simp) rest]
    cases depth with
    | zero => exact absurd rfl (inner rfl)
    | succ n => rfl

/-- A disjunction without an `OR` outside parentheses is a conjunction. -/
theorem Reads.conjunction_of_no_outer {ts : List Token} {φ : Formula}
    (h : Reads .disjunction ts φ) (none : hasOuterOr 0 ts = false) : Reads .conjunction ts φ := by
  -- Wherever an `OR` stands behind a disjunction, one is found.
  have found {us : List Token} {ψ : Formula} (reads : Reads .disjunction us ψ) (rest : List Token) :
      hasOuterOr 0 (us ++ .or :: rest) = true := by
    generalize same : Level.disjunction = level at reads
    induction reads generalizing rest with
    | alone h _ => exact h.hasOuterOr_append (by simp) _
    | or _ _ ih _ =>
      rw [List.append_assoc, List.cons_append]
      exact ih _ rfl
    | atom _ | not _ _ | parenthesized _ _ | single _ _ | and _ _ _ _ => cases same
  cases h with
  | alone h => exact h
  | or h k =>
    rw [found h] at none
    cases none

/-! ## Conjunctions of parts -/

/-- Two conjunctions with an `AND` between them are one. -/
theorem Reads.conjoin {ts us : List Token} {φ ψ : Formula} (h : Reads .conjunction ts φ)
    (k : Reads .conjunction us ψ) :
    ∃ χ, Reads .conjunction (ts ++ .and :: us) χ ∧
      ∀ v, χ.holds v = (φ.holds v && ψ.holds v) := by
  generalize same : Level.conjunction = level at k
  induction k with
  | single k _ => exact ⟨_, .and h k, fun _ => rfl⟩
  | and _ k' ih _ =>
    obtain ⟨χ, reads, holds⟩ := ih rfl
    have whole := reads.and k'
    rw [List.append_assoc, List.cons_append] at whole
    refine ⟨_, whole, fun v => ?_⟩
    rw [Formula.holds, Formula.holds, holds, Bool.and_assoc]
  | atom _ | not _ _ | parenthesized _ _ | alone _ _ | or _ _ _ _ => cases same

/-- A disjunction with an `AND` and a conjunction behind it: the `AND` takes the last alternative
only, but what is asked of both is enough for the whole. -/
theorem Reads.conjoin_right {ts us : List Token} {φ ψ : Formula} (h : Reads .disjunction ts φ)
    (k : Reads .conjunction us ψ) :
    ∃ χ, Reads .disjunction (ts ++ .and :: us) χ ∧
      ∀ v, φ.holds v = true → ψ.holds v = true → χ.holds v = true := by
  cases h with
  | alone h =>
    obtain ⟨χ, reads, holds⟩ := h.conjoin k
    exact ⟨χ, .alone reads, fun v first second => by rw [holds, first, second]; rfl⟩
  | or h last =>
    obtain ⟨χ, reads, holds⟩ := last.conjoin k
    rw [List.append_assoc, List.cons_append]
    refine ⟨_, h.or reads, fun v first second => ?_⟩
    rw [Formula.holds, holds, second, Bool.and_true]
    exact first

/-- Two disjunctions with an `AND` between them are a disjunction, and what is asked of both is
enough for the whole. -/
theorem Reads.conjoin_both {ts us : List Token} {φ ψ : Formula} (h : Reads .disjunction ts φ)
    (k : Reads .disjunction us ψ) :
    ∃ χ, Reads .disjunction (ts ++ .and :: us) χ ∧
      ∀ v, φ.holds v = true → ψ.holds v = true → χ.holds v = true := by
  generalize same : Level.disjunction = level at k
  induction k with
  | alone k _ => exact h.conjoin_right k
  | or _ last ih _ =>
    obtain ⟨χ, reads, holds⟩ := ih same
    have whole := reads.or last
    rw [List.append_assoc, List.cons_append] at whole
    refine ⟨_, whole, fun v first second => ?_⟩
    rw [Formula.holds, Bool.or_eq_true] at second ⊢
    exact second.imp_left (holds v first)
  | atom _ | not _ _ | parenthesized _ _ | single _ _ | and _ _ _ _ => cases same

/-- Parts with an `AND` between them. -/
def conjoined : List (List Token) → List Token
  | [] => []
  | [ts] => ts
  | ts :: us :: parts => ts ++ .and :: conjoined (us :: parts)

/-- Parts with an `AND` between them can be read, and what all parts say is enough for the whole. -/
theorem exists_reads_conjoined {parts : List (List Token)} {formulas : List Formula}
    (some : parts ≠ []) (h : List.Forall₂ (Reads .disjunction) parts formulas) :
    ∃ χ, Reads .disjunction (conjoined parts) χ ∧
      ∀ v, (∀ φ ∈ formulas, φ.holds v = true) → χ.holds v = true := by
  induction h with
  | nil => exact absurd rfl some
  | cons first rest ih =>
    cases rest with
    | nil => exact ⟨_, first, fun v all => all _ (List.mem_singleton_self _)⟩
    | cons second others =>
      obtain ⟨χ, reads, enough⟩ := ih (by simp)
      obtain ⟨whole, joined, both⟩ := first.conjoin_both reads
      refine ⟨whole, joined, fun v all => ?_⟩
      obtain ⟨here, there⟩ := List.forall_mem_cons.1 all
      exact both v here (enough v there)

/-- Conjunctions with an `AND` between them say what all of them say. -/
theorem reads_conjoined {parts : List (List Token)} {formulas : List Formula} (some : parts ≠ [])
    (h : List.Forall₂ (Reads .conjunction) parts formulas) :
    ∃ χ, Reads .conjunction (conjoined parts) χ ∧
      ∀ v, χ.holds v = true ↔ ∀ φ ∈ formulas, φ.holds v = true := by
  induction h with
  | nil => exact absurd rfl some
  | cons first rest ih =>
    cases rest with
    | nil => exact ⟨_, first, fun v => by simp⟩
    | cons second others =>
      obtain ⟨χ, reads, holds⟩ := ih (by simp)
      obtain ⟨whole, joined, both⟩ := first.conjoin reads
      refine ⟨whole, joined, fun v => ?_⟩
      simp only [both, Bool.and_eq_true, holds, List.forall_mem_cons]

/-- The texts of parts with ` AND ` between them spell the parts with an `AND` between them. -/
theorem spells_conjoined {parts : List (List Token)} {texts : List String}
    (h : List.Forall₂ (fun ts (t : String) => Spells ts t.toList) parts texts) :
    Spells (conjoined parts) (" AND ".intercalate texts).toList := by
  have glue : Spells [.and] " AND ".toList := by
    have upper : Token.and.Text ['A', 'N', 'D'] := by
      show ['A', 'N', 'D'].map Char.toUpper = _
      decide
    exact .blank rfl (.token upper (.blank rfl .nil))
  induction h with
  | nil => exact .nil
  | cons first rest ih =>
    cases rest with
    | nil => simpa [conjoined] using first
    | cons second others =>
      rw [String.intercalate_cons_cons, String.toList_append, String.toList_append,
        List.append_assoc]
      exact first.append (glue.append ih)

/-! ## The parts of a draft -/

/-- A list of tokens that are read has a list of formulas. -/
theorem exists_formulas {parts : List (List Token)}
    (h : ∀ ts ∈ parts, ∃ φ, Reads .disjunction ts φ) :
    ∃ formulas, List.Forall₂ (Reads .disjunction) parts formulas := by
  induction parts with
  | nil => exact ⟨[], .nil⟩
  | cons ts parts ih =>
    obtain ⟨φ, here⟩ := h ts (by simp)
    obtain ⟨formulas, there⟩ := ih fun us member => h us (List.mem_cons_of_mem _ member)
    exact ⟨φ :: formulas, .cons here there⟩

/-- The formulas of some parts hold exactly when every reading of every part does. -/
theorem holds_iff_of_reads {parts : List (List Token)} {formulas : List Formula}
    (h : List.Forall₂ (Reads .disjunction) parts formulas) (v : Atom → Bool) :
    (∀ φ ∈ formulas, φ.holds v = true) ↔
      ∀ ts ∈ parts, ∀ φ, Reads .disjunction ts φ → φ.holds v = true := by
  induction h with
  | nil => simp
  | cons first rest ih =>
    rw [List.forall_mem_cons, List.forall_mem_cons, ih]
    refine and_congr_left' ⟨fun holds φ reads => ?_, fun all => all _ first⟩
    rwa [reads.unique first]

namespace Draft

/-- The parts of the conditions: each structured predicate is one atom, and each fragment consists
of the tokens that are given for it. -/
def parts (d : Draft) (fragments : List (List Token)) : List (List Token) :=
  d.predicates.map (fun p => [.atom (.structured p)]) ++ fragments

variable {d : Draft} {fragments : List (List Token)}

/-- The conditions spell the parts with an `AND` between them. -/
theorem spells_parts
    (spelled : List.Forall₂ (fun ts (t : String) => Spells ts t.toList) fragments d.fragments) :
    Spells (conjoined (d.parts fragments)) (" AND ".intercalate d.conditionTexts).toList := by
  have structured : List.Forall₂ (fun ts (t : String) => Spells ts t.toList)
      (d.predicates.map fun p => [.atom (.structured p)]) (d.predicates.map Predicate.text) := by
    rw [List.forall₂_map_left_iff, List.forall₂_map_right_iff]
    exact List.forall₂_same.2 fun p _ => .single rfl
  exact spells_conjoined (List.rel_append structured spelled)

/-- The formulas of the parts. -/
def formulas (d : Draft) (ofFragments : List Formula) : List Formula :=
  d.predicates.map (fun p => .atom (.structured p)) ++ ofFragments

variable {ofFragments : List Formula}

theorem reads_parts (h : List.Forall₂ (Reads .disjunction) fragments ofFragments) :
    List.Forall₂ (Reads .disjunction) (d.parts fragments) (d.formulas ofFragments) := by
  refine List.rel_append ?_ h
  rw [List.forall₂_map_left_iff, List.forall₂_map_right_iff]
  exact List.forall₂_same.2 fun p _ => .alone (.single (.atom _))

/-- The parts are conjunctions when the fragments have no `OR` outside parentheses. -/
theorem conjunction_parts (h : List.Forall₂ (Reads .disjunction) fragments ofFragments)
    (closed : ∀ ts ∈ fragments, hasOuterOr 0 ts = false) :
    List.Forall₂ (Reads .conjunction) (d.parts fragments) (d.formulas ofFragments) := by
  have inner : ∀ ts ∈ d.parts fragments, hasOuterOr 0 ts = false := by
    intro ts member
    rcases List.mem_append.1 member with structured | fragment
    · obtain ⟨p, _, rfl⟩ := List.mem_map.1 structured
      rfl
    · exact closed ts fragment
  have read := reads_parts (d := d) h
  generalize d.parts fragments = parts at inner read
  generalize d.formulas ofFragments = all at read
  induction read with
  | nil => exact .nil
  | cons first _ ih =>
    obtain ⟨here, there⟩ := List.forall_mem_cons.1 inner
    exact .cons (first.conjunction_of_no_outer here) (ih there)

/-- When the fragments have no `OR` outside parentheses, or there is just one part, the conditions
say together what each of them says. -/
theorem reads_conditions (h : List.Forall₂ (Reads .disjunction) fragments ofFragments)
    (some : d.parts fragments ≠ [])
    (closed : (∀ ts ∈ fragments, hasOuterOr 0 ts = false) ∨ (d.parts fragments).length = 1) :
    ∃ φ, Reads .disjunction (conjoined (d.parts fragments)) φ ∧
      ∀ v, φ.holds v = true ↔ ∀ ψ ∈ d.formulas ofFragments, ψ.holds v = true := by
  cases closed with
  | inl closed =>
    obtain ⟨φ, reads, holds⟩ := reads_conjoined some (conjunction_parts h closed)
    exact ⟨φ, .alone reads, holds⟩
  | inr single =>
    have read := reads_parts (d := d) h
    obtain ⟨ts, only⟩ := List.length_eq_one_iff.1 single
    rw [only] at read ⊢
    generalize d.formulas ofFragments = all at read ⊢
    cases read with
    | cons first rest =>
      cases rest
      exact ⟨_, first, fun v => by simp⟩

/-- Every structured predicate is true, and so is every fragment on its own. -/
def EachHolds (d : Draft) (fragments : List (List Token)) (v : Atom → Bool) : Prop :=
  (∀ p ∈ d.predicates, v (.structured p) = true) ∧
    ∀ ts ∈ fragments, ∀ φ, Reads .disjunction ts φ → φ.holds v = true

theorem eachHolds_iff (h : List.Forall₂ (Reads .disjunction) fragments ofFragments)
    (v : Atom → Bool) :
    d.EachHolds fragments v ↔ ∀ φ ∈ d.formulas ofFragments, φ.holds v = true := by
  rw [EachHolds, formulas, List.forall_mem_append, holds_iff_of_reads h, List.forall_mem_map]
  rfl

/-- There are no more conditions than parts. -/
theorem length_parts
    (spelled : List.Forall₂ (fun ts (t : String) => Spells ts t.toList) fragments d.fragments) :
    (d.parts fragments).length = d.conditionTexts.length := by
  simp [parts, conditionTexts, spelled.length_eq]

theorem hasWhere_iff (d : Draft) : d.hasWhere = true ↔ d.conditionTexts ≠ [] := by
  rw [hasWhere, conditionTexts, Ne, List.append_eq_nil_iff, List.map_eq_nil_iff, Bool.or_eq_true,
    Bool.not_eq_true', Bool.not_eq_true', List.isEmpty_eq_false_iff, List.isEmpty_eq_false_iff,
    not_and_or]

/-- The text has the `WHERE` part of the draft in it. -/
def HasWhereText (d : Draft) (sql : String) : Prop :=
  ∃ front back, sql = front ++ d.whereText ++ back

theorem hasWhereText_sourceText (d : Draft) (table front back : String) :
    d.HasWhereText (front ++ d.sourceText table ++ back) := by
  refine ⟨front ++ (" FROM " ++ table ++ d.joinText), d.groupText ++ back, ?_⟩
  simp only [sourceText, String.append_assoc]

theorem hasWhereText_selectText (d : Draft) (table : String) :
    d.HasWhereText (d.selectText table) := by
  unfold selectText
  split
  · have plain := d.hasWhereText_sourceText table ("SELECT " ++ d.fieldText)
      (d.orderText ++ d.pagingText)
    rwa [← String.append_assoc] at plain
  · rename_i aggregate _
    split
    · exact d.hasWhereText_sourceText table _ _
    · have whole := d.hasWhereText_sourceText table ("SELECT " ++ aggregate.text) ""
      rwa [String.append_empty] at whole

/-- The `WHERE` part stands in every statement but an `INSERT`. -/
theorem hasWhereText_of_compile {kind : Statement.Kind} {s : Statement}
    (h : d.compile kind = .ok s) (rows : kind ≠ .insert) : d.HasWhereText s.sql := by
  have last (front : String) : d.HasWhereText (front ++ d.whereText) :=
    ⟨front, "", String.append_empty.symm⟩
  obtain ⟨table, -, made⟩ := made_of_compile h
  cases kind with
  | select =>
    cases made
    exact d.hasWhereText_selectText table
  | insert => exact absurd rfl rows
  | update | delete =>
    obtain ⟨-, rfl⟩ := made
    exact last _

end Draft

/-! ## Main statement -/

/-- Whatever the fragments of a draft are made of, the `WHERE` part of a statement is read in
exactly one way, and it is true whenever every structured predicate and every fragment on its own
is true. Without conditions there is no such part.

It is true only then if no fragment has an `OR` outside its parentheses, or if there is just one
part: a fragment is put into the text as it was given, without parentheses of its own. -/
theorem where_conjunction (d : Draft) (kind : Statement.Kind) (s : Statement)
    (fragments : List (List Token)) (h : d.compile kind = .ok s) (rows : kind ≠ .insert)
    (spelled : List.Forall₂ (fun ts (t : String) => Spells ts t.toList) fragments d.fragments)
    (wellFormed : ∀ ts ∈ fragments, ∃ φ, Reads .disjunction ts φ) :
    (d.conditionTexts = [] → d.whereText = "" ∧ ∀ v, d.EachHolds fragments v) ∧
      (d.conditionTexts ≠ [] → ∃ front text back, s.sql = front ++ " WHERE " ++ text ++ back ∧
        d.whereText = " WHERE " ++ text ∧ Spells (conjoined (d.parts fragments)) text.toList ∧
        ∃ φ, (∀ ψ, Reads .disjunction (conjoined (d.parts fragments)) ψ ↔ ψ = φ) ∧
          (∀ v, d.EachHolds fragments v → φ.holds v = true) ∧
          ((∀ ts ∈ fragments, hasOuterOr 0 ts = false) ∨ d.conditionTexts.length = 1 →
            ∀ v, φ.holds v = true ↔ d.EachHolds fragments v)) := by
  have length := Draft.length_parts spelled
  obtain ⟨ofFragments, read⟩ := exists_formulas wellFormed
  constructor
  · intro none
    refine ⟨by rw [Draft.whereText, if_neg fun some => d.hasWhere_iff.1 some none], fun v => ?_⟩
    rw [none, List.length_nil, List.length_eq_zero_iff, Draft.parts, List.append_eq_nil_iff,
      List.map_eq_nil_iff] at length
    rw [Draft.EachHolds, length.1, length.2]
    simp
  · intro some
    obtain ⟨front, back, sql⟩ := Draft.hasWhereText_of_compile h rows
    have text : d.whereText = " WHERE " ++ " AND ".intercalate d.conditionTexts := by
      rw [Draft.whereText, if_pos (d.hasWhere_iff.2 some)]
    refine ⟨front, " AND ".intercalate d.conditionTexts, back, ?_, text,
      Draft.spells_parts spelled, ?_⟩
    · rw [sql, text]
      simp only [String.append_assoc]
    have present : d.parts fragments ≠ [] := by
      rwa [← List.length_pos_iff, length, List.length_pos_iff]
    obtain ⟨φ, reads, enough⟩ := exists_reads_conjoined present (Draft.reads_parts (d := d) read)
    refine ⟨φ, fun ψ => ⟨fun other => other.unique reads, fun same => same ▸ reads⟩,
      fun v all => enough v ((Draft.eachHolds_iff read v).1 all), fun closed v => ?_⟩
    rw [← length] at closed
    obtain ⟨ψ, reads', holds⟩ := Draft.reads_conditions read present closed
    rw [reads.unique reads', holds, Draft.eachHolds_iff read]

/-! ### Deleting the users of a tenant -/

/-- The users of a tenant, restricted by a fragment. -/
def tenantUsers (fragment : String) : Draft :=
  ({ table := some "users" } : Draft).applyAll
    [.require false (.equals "tenant" (.int32 7)), .fragment fragment]

/-- The predicate of the tenant. -/
def ofTenant : Predicate := .scalar "tenant" .eq (.int32 7)

/-- Either of two conditions. -/
def bannedOrExpired : List Token := [.atom (.raw "banned"), .or, .atom (.raw "expired")]

theorem reads_bannedOrExpired :
    Reads .disjunction bannedOrExpired (.or (.atom (.raw "banned")) (.atom (.raw "expired"))) :=
  Reads.or (.alone (.single (.atom _))) (.single (.atom _))

theorem spells_bannedOrExpired : Spells bannedOrExpired "banned OR expired".toList := by
  have keyword : Token.or.Text ['O', 'R'] := by
    show ['O', 'R'].map Char.toUpper = _
    decide
  have banned : Spells [.atom (.raw "banned")] "banned".toList := .single rfl
  have expired : Spells [.atom (.raw "expired")] "expired".toList := .single rfl
  have or : Spells [.or] " OR ".toList := .blank rfl (.token keyword (.blank rfl .nil))
  exact banned.append (or.append expired)

/-- Neither of the two conditions: an `OR` in parentheses. -/
def neither : List Token := .not :: .opening :: bannedOrExpired ++ [.closing]

theorem reads_neither : Reads .disjunction neither
    (.not (.or (.atom (.raw "banned")) (.atom (.raw "expired")))) :=
  .alone (.single (.not (.parenthesized reads_bannedOrExpired)))

theorem spells_neither : Spells neither "not (banned OR expired)".toList := by
  have keyword : Token.not.Text ['n', 'o', 't'] := by
    show ['n', 'o', 't'].map Char.toUpper = _
    decide
  have not : Spells [.not] "not ".toList := .token keyword (.blank rfl .nil)
  have opening : Spells [.opening] "(".toList := .single rfl
  have closing : Spells [.closing] ")".toList := .single rfl
  exact not.append (opening.append (spells_bannedOrExpired.append closing))

/-- With its `OR` in parentheses the fragment restricts the users of the tenant. -/
theorem where_conjunction_neither :
    (tenantUsers "not (banned OR expired)").compile .delete =
        .ok ⟨"DELETE FROM users WHERE tenant = ? AND not (banned OR expired)", [.int32 7]⟩ ∧
      (tenantUsers "not (banned OR expired)").conditionTexts ≠ [] ∧
      List.Forall₂ (fun ts (t : String) => Spells ts t.toList) [neither]
        (tenantUsers "not (banned OR expired)").fragments ∧
      (∀ ts ∈ [neither], ∃ φ, Reads .disjunction ts φ) ∧
      ∃ φ, (∀ ψ, Reads .disjunction
          (conjoined ((tenantUsers "not (banned OR expired)").parts [neither])) ψ ↔ ψ = φ) ∧
        ∀ v, φ.holds v = true ↔
          (tenantUsers "not (banned OR expired)").EachHolds [neither] v := by
  have compiled : (tenantUsers "not (banned OR expired)").compile .delete =
      .ok ⟨"DELETE FROM users WHERE tenant = ? AND not (banned OR expired)", [.int32 7]⟩ := by rfl
  have spelled : List.Forall₂ (fun ts (t : String) => Spells ts t.toList) [neither]
      (tenantUsers "not (banned OR expired)").fragments := .cons spells_neither .nil
  have read : ∀ ts ∈ [neither], ∃ φ, Reads .disjunction ts φ := by
    simpa using ⟨_, reads_neither⟩
  have some : (tenantUsers "not (banned OR expired)").conditionTexts ≠ [] := List.cons_ne_nil _ _
  obtain ⟨front, text, back, -, -, -, φ, one, -, exact⟩ :=
    (where_conjunction _ .delete _ [neither] compiled (by decide) spelled read).2 some
  exact ⟨compiled, some, spelled, read, φ, one, exact (.inl (by decide))⟩

/-- Without parentheses it does not: the expired users of every other tenant are deleted as well. -/
theorem where_escapes :
    (tenantUsers "banned OR expired").compile .delete =
        .ok ⟨"DELETE FROM users WHERE tenant = ? AND banned OR expired", [.int32 7]⟩ ∧
      List.Forall₂ (fun ts (t : String) => Spells ts t.toList) [bannedOrExpired]
        (tenantUsers "banned OR expired").fragments ∧
      (∀ ts ∈ [bannedOrExpired], ∃ φ, Reads .disjunction ts φ) ∧
      Spells (conjoined ((tenantUsers "banned OR expired").parts [bannedOrExpired]))
        "tenant = ? AND banned OR expired".toList ∧
      ∃ φ v, (∀ ψ, Reads .disjunction
          (conjoined ((tenantUsers "banned OR expired").parts [bannedOrExpired])) ψ ↔ ψ = φ) ∧
        φ.holds v = true ∧ ¬ (tenantUsers "banned OR expired").EachHolds [bannedOrExpired] v := by
  have spelled : List.Forall₂ (fun ts (t : String) => Spells ts t.toList) [bannedOrExpired]
      (tenantUsers "banned OR expired").fragments := .cons spells_bannedOrExpired .nil
  have read : Reads .disjunction
      ([.atom (.structured ofTenant)] ++ .and :: [.atom (.raw "banned")] ++ .or ::
        [.atom (.raw "expired")])
      (.or (.and (.atom (.structured ofTenant)) (.atom (.raw "banned")))
        (.atom (.raw "expired"))) :=
    .or (.alone (.and (.single (.atom _)) (.atom _))) (.single (.atom _))
  refine ⟨rfl, spelled, ?_, Draft.spells_parts spelled, _, fun a => a == .raw "expired",
    fun ψ => ⟨fun other => other.unique read, fun same => same ▸ read⟩, by decide, fun each => ?_⟩
  · simpa using ⟨_, reads_bannedOrExpired⟩
  · have tenant := each.1 ofTenant (by decide)
    exact absurd tenant (by decide)

end QueryLoom
