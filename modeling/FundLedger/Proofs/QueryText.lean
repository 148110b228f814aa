import Mathlib.Data.List.Infix
import FundLedger.Proofs.Identifiers
import FundLedger.Storage.Query
/-!
# Queries as text

Nothing is escaped in the text of a query: a value with blanks stands in quotes, and that is all.  So a query whose
fields are plain is read back from its text exactly if none of its values has a joint in it, and none without blanks is
in quotes of its own.

* `Query.parts_append_joint`, `Query.parts_intercalate`: the clauses between the joints.
* `Query.PlainField`, `Query.Retained`: fields, and values that are read back.
* `Query.ofText_text_iff`: the query of a query's text.
* `Query.PlainClause`, `Query.ofText_text`: clauses without blanks and quotes are read back.
* `RecordId.plain_text`: the written form of an identifier has no blanks and no quotes.
-/

namespace FundLedger

/-! ## Lists -/

section Lists

variable {α β ε : Type}

theorem length_of_mapM_ok {f : α → Except ε β} {as : List α} {bs : List β} (h : as.mapM f = .ok bs) :
    as.length = bs.length := by
  induction as generalizing bs with
  | nil =>
    cases h
    rfl
  | cons a as ih =>
    rw [List.mapM_cons] at h
    cases ha : f a with
    | error e =>
      rw [ha] at h
      cases h
    | ok b =>
      cases has : as.mapM f with
      | error e =>
        rw [ha, has] at h
        cases h
      | ok bs' =>
        rw [ha, has] at h
        cases h
        rw [List.length_cons, List.length_cons, ih has]

/-- What is written is read back exactly if each member is. -/
theorem mapM_map_eq_ok_iff {f : α → Except ε β} {g : β → α} {bs : List β} :
    (bs.map g).mapM f = .ok bs ↔ ∀ b ∈ bs, f (g b) = .ok b := by
  induction bs with
  | nil => exact iff_of_true rfl fun b hb => absurd hb List.not_mem_nil
  | cons b bs ih =>
    rw [List.map_cons, List.mapM_cons, List.forall_mem_cons, ← ih]
    cases hb : f (g b) with
    | error e => exact iff_of_false (fun h => nomatch h) fun h => nomatch h.1
    | ok b' =>
      cases hbs : (bs.map g).mapM f with
      | error e => exact iff_of_false (fun h => nomatch h) fun h => nomatch h.2
      | ok bs' =>
        change Except.ok (b' :: bs') = Except.ok (b :: bs) ↔ _
        rw [Except.ok.injEq, Except.ok.injEq, Except.ok.injEq, List.cons.injEq]

theorem length_le_length_flatMap {f : α → List β} {l : List α} (hne : ∀ a ∈ l, f a ≠ []) :
    l.length ≤ (l.flatMap f).length := by
  induction l with
  | nil => exact Nat.le_refl _
  | cons a l ih =>
    obtain ⟨ha, hl⟩ := List.forall_mem_cons.mp hne
    have hpos := List.length_pos_iff.mpr ha
    have hrest := ih hl
    rw [List.flatMap_cons, List.length_append, List.length_cons]
    omega

/-- As many members as there are lists, none of which is empty: there is one in each. -/
theorem length_eq_one_of_flatMap {f : α → List β} {l : List α} (hne : ∀ a ∈ l, f a ≠ [])
    (h : (l.flatMap f).length = l.length) : ∀ a ∈ l, (f a).length = 1 := by
  induction l with
  | nil => exact fun a ha => absurd ha List.not_mem_nil
  | cons a l ih =>
    obtain ⟨ha, hl⟩ := List.forall_mem_cons.mp hne
    have hpos := List.length_pos_iff.mpr ha
    have hrest := length_le_length_flatMap hl
    rw [List.flatMap_cons, List.length_append, List.length_cons] at h
    exact List.forall_mem_cons.mpr ⟨by omega, ih hl (by omega)⟩

end Lists

/-! ## Blanks -/

theorem trimStart_of_no_blank {cs : List Char} (h : ∀ c ∈ cs, isBlank c = false) : trimStart cs = cs := by
  cases cs with
  | nil => rfl
  | cons c rest => exact trimStart_of_head (h c List.mem_cons_self) rest

theorem trim_of_no_blank {cs : List Char} (h : ∀ c ∈ cs, isBlank c = false) : trim cs = cs := by
  have hreverse : ∀ c ∈ cs.reverse, isBlank c = false := fun c hc => h c (List.mem_reverse.mp hc)
  unfold trim
  rw [trimStart_of_no_blank h, trimStart_of_no_blank hreverse, List.reverse_reverse]

/-- Between two characters that are not blank, blanks stay. -/
theorem trim_between {c d : Char} (hc : isBlank c = false) (hd : isBlank d = false) (cs : List Char) :
    trim (c :: (cs ++ [d])) = c :: (cs ++ [d]) := by
  have hreverse : (c :: (cs ++ [d])).reverse = d :: (cs.reverse ++ [c]) := by simp
  unfold trim
  rw [trimStart_of_head hc, hreverse, trimStart_of_head hd, ← hreverse, List.reverse_reverse]

/-- What is not blank stays. -/
theorem mem_trim {cs : List Char} {c : Char} (hc : c ∈ cs) (hblank : isBlank c = false) : c ∈ trim cs := by
  have hstart : ∀ ds : List Char, c ∈ ds → c ∈ trimStart ds := by
    intro ds hds
    rw [← List.takeWhile_append_dropWhile (p := isBlank) (l := ds)] at hds
    rcases List.mem_append.mp hds with htaken | hrest
    · rw [List.all_eq_true.mp List.all_takeWhile c htaken] at hblank
      cases hblank
    · exact hrest
  unfold trim
  exact List.mem_reverse.mpr (hstart _ (List.mem_reverse.mpr (hstart cs hc)))

namespace Query

/-! ## Joints -/

/-- What stands between two clauses. -/
def joint : List Char := " AND ".toList

/-- A joint without its last blank: what must not stand in front of a joint. -/
def jointFront : List Char := " AND".toList

/-- A text is empty, or starts with a joint, or with a character at which no joint starts. -/
theorem joint_induction {motive : List Char → Prop} (nil : motive []) (join : ∀ rest, motive rest → motive (joint ++ rest))
    (cons : ∀ c rest, ¬joint <+: c :: rest → motive rest → motive (c :: rest)) (cs : List Char) : motive cs := by
  have hstep : ∀ c rest, (∀ tail, c = ' ' → rest = 'A' :: 'N' :: 'D' :: ' ' :: tail → False) → motive rest →
      motive (c :: rest) := by
    intro c rest hjoint hrest
    refine cons c rest (fun hprefix => ?_) hrest
    obtain ⟨tail, htail⟩ := hprefix
    obtain ⟨hc, hrest⟩ := List.cons.inj htail
    exact hjoint tail hc.symm hrest.symm
  induction cs using parts.induct with
  | case1 => exact nil
  | case2 rest ih => exact join rest ih
  | case3 c rest hjoint _ ih => exact hstep c rest hjoint ih
  | case4 c rest hjoint _ _ _ ih => exact hstep c rest hjoint ih

theorem parts_joint_append (rest : List Char) : parts (joint ++ rest) = [] :: parts rest := rfl

theorem parts_ne_nil (cs : List Char) : parts cs ≠ [] := by
  rw [parts.eq_def]
  split
  · exact List.cons_ne_nil _ _
  · exact List.cons_ne_nil _ _
  · split <;> exact List.cons_ne_nil _ _

theorem parts_cons_of_no_joint {c : Char} {rest : List Char} (h : ¬joint <+: c :: rest) :
    parts (c :: rest) = (parts rest).modifyHead (c :: ·) := by
  rw [parts.eq_def]
  split
  · rename_i heq
    cases heq
  · rename_i tail heq
    exact absurd ⟨tail, heq.symm⟩ h
  · rename_i heq
    obtain ⟨rfl, rfl⟩ := List.cons.inj heq
    obtain ⟨first, others, hparts⟩ := List.exists_cons_of_ne_nil (parts_ne_nil rest)
    rw [hparts]
    rfl

/-- A joint that reaches over the end of a text into the next joint starts with all but its last blank. -/
theorem prefix_of_prefix_append_joint {cs rest : List Char} (hne : cs ≠ []) (hfront : ¬jointFront <:+ cs)
    (h : joint <+: cs ++ (joint ++ rest)) : joint <+: cs := by
  have hjoint : joint = [' ', 'A', 'N', 'D', ' '] := rfl
  have hblanks : jointFront = [' ', 'A', 'N', 'D'] := rfl
  rw [hjoint] at h ⊢
  rw [hblanks] at hfront
  match cs with
  | [] => exact absurd rfl hne
  | [a] => simp at h
  | [a, b] => simp at h
  | [a, b, c] => simp at h
  | [a, b, c, d] =>
    simp only [List.cons_append, List.nil_append, List.cons_prefix_cons] at h
    obtain ⟨rfl, rfl, rfl, rfl, -⟩ := h
    exact absurd (List.suffix_refl _) hfront
  | a :: b :: c :: d :: e :: cs =>
    simp only [List.cons_append, List.cons_prefix_cons] at h ⊢
    exact ⟨h.1, h.2.1, h.2.2.1, h.2.2.2.1, h.2.2.2.2.1, List.nil_prefix⟩

/-- In front of a joint the parts end, whatever follows. -/
theorem parts_append_joint {cs : List Char} (hfront : ¬jointFront <:+ cs) (rest : List Char) :
    parts (cs ++ (joint ++ rest)) = parts cs ++ parts rest := by
  induction cs using joint_induction with
  | nil => rfl
  | join cs ih =>
    have hcs : ¬jointFront <:+ cs := fun h => hfront (h.trans (List.suffix_append joint cs))
    rw [List.append_assoc, parts_joint_append, parts_joint_append, ih hcs, List.cons_append]
  | cons c cs hjoint ih =>
    have hcs : ¬jointFront <:+ cs := fun h => hfront (h.trans (List.suffix_cons c cs))
    have hlong : ¬joint <+: c :: cs ++ (joint ++ rest) := fun h =>
      hjoint (prefix_of_prefix_append_joint (List.cons_ne_nil c cs) hfront h)
    obtain ⟨first, others, hparts⟩ := List.exists_cons_of_ne_nil (parts_ne_nil cs)
    rw [parts_cons_of_no_joint hjoint]
    rw [List.cons_append] at hlong ⊢
    rw [parts_cons_of_no_joint hlong, ih hcs, hparts]
    rfl

/-- The parts of joined texts are those of each text. -/
theorem parts_intercalate {css : List (List Char)} (hne : css ≠ []) (hfront : ∀ cs ∈ css, ¬jointFront <:+ cs) :
    parts (joint.intercalate css) = css.flatMap parts := by
  induction css with
  | nil => exact absurd rfl hne
  | cons cs rest ih =>
    obtain ⟨hcs, hrest⟩ := List.forall_mem_cons.mp hfront
    cases rest with
    | nil => rw [List.intercalate_singleton, List.flatMap_singleton]
    | cons cs' rest =>
      rw [List.intercalate_cons_cons, List.append_assoc, parts_append_joint hcs, ih (List.cons_ne_nil _ _) hrest]
      rfl

theorem parts_of_no_joint {cs : List Char} (h : ¬joint <:+: cs) : parts cs = [cs] := by
  induction cs using joint_induction with
  | nil => rfl
  | join cs _ => exact absurd (List.prefix_append joint cs).isInfix h
  | cons c cs hjoint ih =>
    rw [parts_cons_of_no_joint hjoint, ih fun hcs => h (hcs.trans (List.suffix_cons c cs).isInfix)]
    rfl

/-- A text with a joint in it falls into several parts. -/
theorem one_lt_length_parts {cs : List Char} (h : joint <:+: cs) : 1 < (parts cs).length := by
  induction cs using joint_induction with
  | nil => exact absurd (List.infix_nil.mp h) (by decide)
  | join cs _ =>
    rw [parts_joint_append, List.length_cons]
    have hpos := List.length_pos_iff.mpr (parts_ne_nil cs)
    omega
  | cons c cs hjoint ih =>
    rw [parts_cons_of_no_joint hjoint, List.length_modifyHead]
    exact ih ((List.infix_cons_iff.mp h).resolve_left hjoint)

/-! ## Clauses -/

/-- A field that is read back: it is not empty and has no blanks, and no part of the `==` behind it. -/
structure PlainField (field : String) : Prop where
  ne : field.toList ≠ []
  plain : ∀ c ∈ field.toList, isBlank c = false ∧ c ≠ '='

/-- A value that is read back: it has no joint in it and is not, without any blanks, in quotes of its own. -/
structure Retained (value : String) : Prop where
  no_joint : ¬joint <:+: value.toList
  no_quotes : (∀ c ∈ value.toList, isBlank c = false) →
    ¬(2 ≤ value.length ∧ value.toList.head? = some '"' ∧ value.toList.getLast? = some '"')

instance (field : String) : Decidable (PlainField field) :=
  decidable_of_iff (field.toList ≠ [] ∧ field.toList.all fun c => !isBlank c && c != '=')
    ⟨fun h => ⟨h.1, by simpa using h.2⟩, fun h => ⟨h.1, by simpa using h.2⟩⟩

instance (value : String) : Decidable (Retained value) :=
  decidable_of_iff (¬joint <:+: value.toList ∧ ((value.toList.all fun c => !isBlank c) →
      ¬(2 ≤ value.length ∧ value.toList.head? = some '"' ∧ value.toList.getLast? = some '"')))
    ⟨fun h => ⟨h.1, fun hplain => h.2 (by simpa using hplain)⟩, fun h => ⟨h.1, fun hplain => h.2 (by simpa using hplain)⟩⟩

theorem splitEquals?_append {field : List Char} (h : ∀ c ∈ field, c ≠ '=') (value : List Char) :
    splitEquals? (field ++ '=' :: '=' :: value) = some (field, value) := by
  induction field with
  | nil => rfl
  | cons c field ih =>
    obtain ⟨hc, hfield⟩ := List.forall_mem_cons.mp h
    rw [List.cons_append, splitEquals?.eq_def]
    split
    · rename_i heq
      cases heq
    · rename_i heq
      exact absurd (List.cons.inj heq).1 hc
    · rename_i heq
      obtain ⟨rfl, rfl⟩ := List.cons.inj heq
      rw [ih hfield]
      rfl

theorem unquoted_cons_quote (rest : List Char) :
    unquoted ('"' :: rest) = if rest.getLast? = some '"' then rest.dropLast else '"' :: rest := rfl

theorem unquoted_of_head_ne {value : List Char} (h : value.head? ≠ some '"') : unquoted value = value := by
  unfold unquoted
  split
  · exact absurd rfl h
  · rfl

theorem unquoted_quoted (value : List Char) : unquoted ('"' :: (value ++ ['"'])) = value := by
  rw [unquoted_cons_quote, if_pos List.getLast?_concat, List.dropLast_concat]

/-- Quotes are taken off exactly if there are two of them. -/
theorem unquoted_eq_self_iff {value : List Char} :
    unquoted value = value ↔ ¬(2 ≤ value.length ∧ value.head? = some '"' ∧ value.getLast? = some '"') := by
  by_cases hhead : value.head? = some '"'
  · obtain ⟨rest, rfl⟩ := List.head?_eq_some_iff.mp hhead
    rw [unquoted_cons_quote]
    cases rest with
    | nil => decide
    | cons d rest =>
      rw [List.getLast?_cons_cons]
      by_cases hlast : (d :: rest).getLast? = some '"'
      · -- without the two quotes the value is shorter
        rw [if_pos hlast]
        refine iff_of_false (fun h => ?_) (not_not.mpr ⟨by simp, rfl, hlast⟩)
        have hlength := congrArg List.length h
        simp at hlength
        omega
      · rw [if_neg hlast]
        exact iff_of_true rfl fun h => hlast h.2.2
  · exact iff_of_true (unquoted_of_head_ne hhead) fun h => hhead h.2.1

/-- The value of a clause as it stands in the text. -/
theorem toList_valueText (value : String) :
    (valueText value).toList = if value.toList.any isBlank then '"' :: (value.toList ++ ['"']) else value.toList := by
  unfold valueText
  split <;> simp

theorem toList_clauseText (clause : String × String) :
    (clauseText clause).toList = clause.1.toList ++ '=' :: '=' :: (valueText clause.2).toList := by
  unfold clauseText
  simp

/-- A joint starts with a blank, so it lies behind all that has none. -/
theorem joint_infix_append_iff {cs : List Char} (h : ∀ c ∈ cs, isBlank c = false) (ds : List Char) :
    joint <:+: cs ++ ds ↔ joint <:+: ds := by
  induction cs with
  | nil => rfl
  | cons c cs ih =>
    obtain ⟨hc, hcs⟩ := List.forall_mem_cons.mp h
    have hprefix : ¬joint <+: c :: (cs ++ ds) := by
      rintro ⟨tail, htail⟩
      obtain ⟨rfl, -⟩ := List.cons.inj htail
      cases hc
    rw [List.cons_append, List.infix_cons_iff, ih hcs]
    exact or_iff_right hprefix

/-- A joint ends with a blank, so it lies in front of a character that is none. -/
theorem joint_infix_concat_iff {d : Char} (h : isBlank d = false) (cs : List Char) :
    joint <:+: cs ++ [d] ↔ joint <:+: cs := by
  have hsuffix : ¬joint <:+ cs ++ [d] := by
    rintro ⟨front, hfront⟩
    have hlast := congrArg List.getLast? hfront
    rw [List.getLast?_concat, List.getLast?_append_of_ne_nil _ (by decide)] at hlast
    obtain rfl : ' ' = d := Option.some.inj hlast
    cases h
  rw [List.infix_concat_iff]
  exact or_iff_right hsuffix

/-- Quotes around a value make no joint. -/
theorem joint_infix_valueText_iff (value : String) : joint <:+: (valueText value).toList ↔ joint <:+: value.toList := by
  rw [toList_valueText]
  split
  · have hquote : ∀ c ∈ ['"'], isBlank c = false := List.forall_mem_singleton.mpr (by decide)
    rw [← List.singleton_append, joint_infix_append_iff hquote, joint_infix_concat_iff (by decide)]
  · rfl

section Clause

variable {clause : String × String} (h : PlainField clause.1)

include h

theorem joint_infix_clauseText_iff : joint <:+: (clauseText clause).toList ↔ joint <:+: clause.2.toList := by
  have hequals : ∀ c ∈ ['=', '='], isBlank c = false := by
    intro c hc
    obtain rfl := List.eq_of_mem_replicate (n := 2) hc
    decide
  rw [toList_clauseText, joint_infix_append_iff fun c hc => (h.plain c hc).1, ← joint_infix_valueText_iff]
  exact joint_infix_append_iff hequals _

/-- No clause ends like a joint: behind its last blank there is a quote. -/
theorem not_jointFront_suffix_clauseText : ¬jointFront <:+ (clauseText clause).toList := by
  rw [toList_clauseText, toList_valueText]
  rintro ⟨front, hfront⟩
  split at hfront
  · have hlast := congrArg List.getLast? hfront
    rw [List.getLast?_append_of_ne_nil _ (by decide), ← List.cons_append, ← List.cons_append, ← List.cons_append,
      ← List.append_assoc, List.getLast?_concat] at hlast
    revert hlast
    decide
  · rename_i hblank
    have hmem : ' ' ∈ clause.1.toList ++ '=' :: '=' :: clause.2.toList := by
      rw [← hfront]
      exact List.mem_append_right _ (by decide)
    simp only [List.mem_append, List.mem_cons] at hmem
    rcases hmem with hmem | hmem | hmem | hmem
    · exact absurd (h.plain _ hmem).1 (by decide)
    · revert hmem
      decide
    · revert hmem
      decide
    · exact hblank (List.any_eq_true.mpr ⟨' ', hmem, by decide⟩)

/-- The clause that is read behind the joints has its field, and its value without quotes. -/
theorem readClause_clauseText :
    readClause (clauseText clause).toList =
      .ok (clause.1, String.ofList (unquoted (trim (valueText clause.2).toList))) := by
  have hfield : trim clause.1.toList = clause.1.toList := trim_of_no_blank fun c hc => (h.plain c hc).1
  unfold readClause clauseOf?
  rw [toList_clauseText, splitEquals?_append fun c hc => (h.plain c hc).2]
  simp only [hfield, if_neg h.ne, String.ofList_toList]

/-- A clause is read back from its text exactly if no quotes are taken off its value but those that the text added. -/
theorem readClause_clauseText_iff : readClause (clauseText clause).toList = .ok clause ↔
    ((∀ c ∈ clause.2.toList, isBlank c = false) →
      ¬(2 ≤ clause.2.length ∧ clause.2.toList.head? = some '"' ∧ clause.2.toList.getLast? = some '"')) := by
  have hvalue : readClause (clauseText clause).toList = .ok clause ↔
      unquoted (trim (valueText clause.2).toList) = clause.2.toList := by
    rw [readClause_clauseText h, Except.ok.injEq, Prod.ext_iff, and_iff_right rfl, ← String.toList_inj,
      String.toList_ofList]
  rw [hvalue, toList_valueText]
  split
  · rename_i hblank
    rw [trim_between (by decide) (by decide), unquoted_quoted]
    refine iff_of_true rfl fun hno => ?_
    obtain ⟨c, hc, hcblank⟩ := List.any_eq_true.mp hblank
    rw [hno c hc] at hcblank
    cases hcblank
  · rename_i hblank
    have hno : ∀ c ∈ clause.2.toList, isBlank c = false := by simpa using hblank
    rw [trim_of_no_blank hno, unquoted_eq_self_iff, String.length_toList]
    exact ⟨fun hquotes _ => hquotes, fun hquotes => hquotes hno⟩

end Clause

/-! ## Queries -/

theorem toList_text (q : Query) :
    q.text.toList = joint.intercalate (q.clauses.map fun clause => (clauseText clause).toList) := by
  unfold text
  rw [String.toList_intercalate, List.map_map]
  rfl

/-- Clauses without a joint are the parts that are read. -/
theorem flatMap_parts {clauses : List (String × String)}
    (hjoint : ∀ clause ∈ clauses, ¬joint <:+: (clauseText clause).toList) :
    (clauses.flatMap fun clause => parts (clauseText clause).toList) =
      clauses.map fun clause => (clauseText clause).toList := by
  rw [List.map_eq_flatMap]
  exact List.flatMap_congr fun clause hclause => parts_of_no_joint (hjoint clause hclause)

section

variable {q : Query} (h : ∀ clause ∈ q.clauses, PlainField clause.1)

include h

/-- The text is not blank: it starts with a field. -/
theorem trim_text_ne_nil (hne : q.clauses ≠ []) : trim q.text.toList ≠ [] := by
  obtain ⟨clause, rest, hclauses⟩ := List.exists_cons_of_ne_nil hne
  have hclause := h clause (hclauses ▸ List.mem_cons_self)
  obtain ⟨c, field, hfield⟩ := List.exists_cons_of_ne_nil hclause.ne
  have hc : c ∈ clause.1.toList := hfield ▸ List.mem_cons_self
  have hfirst : c ∈ (clauseText clause).toList := by
    rw [toList_clauseText]
    exact List.mem_append_left _ hc
  have hmem : c ∈ q.text.toList := by
    rw [toList_text, hclauses]
    cases rest with
    | nil =>
      rw [List.map_singleton, List.intercalate_singleton]
      exact hfirst
    | cons clause' rest =>
      rw [List.map_cons, List.map_cons, List.intercalate_cons_cons]
      exact List.mem_append_left _ (List.mem_append_left _ hfirst)
  exact List.ne_nil_of_mem (mem_trim hmem (hclause.plain c hc).1)

theorem parts_text (hne : q.clauses ≠ []) :
    parts q.text.toList = q.clauses.flatMap fun clause => parts (clauseText clause).toList := by
  rw [toList_text, parts_intercalate (by simpa using hne), List.flatMap_map]
  intro cs hcs
  obtain ⟨clause, hclause, rfl⟩ := List.mem_map.mp hcs
  exact not_jointFront_suffix_clauseText (h clause hclause)

theorem ofText_text_eq_ok_iff (hne : q.clauses ≠ []) : ofText q.text = .ok q ↔
    (q.clauses.flatMap fun clause => parts (clauseText clause).toList).mapM readClause = .ok q.clauses := by
  unfold ofText
  rw [if_neg (trim_text_ne_nil h hne), parts_text h hne]
  cases (q.clauses.flatMap fun clause => parts (clauseText clause).toList).mapM readClause with
  | error e => exact iff_of_false (fun h => nomatch h) fun h => nomatch h
  | ok clauses =>
    change Except.ok (Query.mk clauses) = Except.ok q ↔ _
    rw [Except.ok.injEq, Except.ok.injEq, ← Query.mk.injEq]

/-- A query whose values have nothing in them that the text would have to escape. -/
theorem ofText_text_of_retained (hretained : ∀ clause ∈ q.clauses, Retained clause.2) : ofText q.text = .ok q := by
  rcases eq_or_ne q.clauses [] with hnil | hne
  · obtain ⟨clauses⟩ := q
    obtain rfl : clauses = [] := hnil
    rfl
  have hjoint : ∀ clause ∈ q.clauses, ¬joint <:+: (clauseText clause).toList := fun clause hclause hinside =>
    (hretained clause hclause).no_joint ((joint_infix_clauseText_iff (h clause hclause)).mp hinside)
  rw [ofText_text_eq_ok_iff h hne, flatMap_parts hjoint, mapM_map_eq_ok_iff]
  exact fun clause hclause => (readClause_clauseText_iff (h clause hclause)).mpr (hretained clause hclause).no_quotes

/-- A joint in a value makes one more clause, or none that can be read; quotes of its own are lost. -/
theorem retained_of_ofText_text (hread : ofText q.text = .ok q) : ∀ clause ∈ q.clauses, Retained clause.2 := by
  intro clause hclause
  have hmapM := (ofText_text_eq_ok_iff h (List.ne_nil_of_mem hclause)).mp hread
  have hone := length_eq_one_of_flatMap (fun clause _ => parts_ne_nil (clauseText clause).toList)
    (length_of_mapM_ok hmapM)
  have hjoint : ∀ clause ∈ q.clauses, ¬joint <:+: (clauseText clause).toList := fun clause hclause hinside =>
    Nat.ne_of_gt (one_lt_length_parts hinside) (hone clause hclause)
  rw [flatMap_parts hjoint, mapM_map_eq_ok_iff] at hmapM
  exact ⟨fun hinside => hjoint clause hclause ((joint_infix_clauseText_iff (h clause hclause)).mpr hinside),
    (readClause_clauseText_iff (h clause hclause)).mp (hmapM clause hclause)⟩

/-- A query is read back from its text exactly if every value in it is one that the text retains. -/
theorem ofText_text_iff : ofText q.text = .ok q ↔ ∀ clause ∈ q.clauses, Retained clause.2 :=
  ⟨retained_of_ofText_text h, ofText_text_of_retained h⟩

end

/-- Blanks, an equals sign and single quotes are retained, and so is `AND` beside a joint; a joint and a pair of quotes
are not. -/
theorem ofText_text_iff_awkwardValues :
    ofText (text ⟨[("name", " Main  fund"), ("AND", "AND"), ("mark", "\""), ("note", "\"x\" AND"), ("sum", "==")]⟩) =
        .ok ⟨[("name", " Main  fund"), ("AND", "AND"), ("mark", "\""), ("note", "\"x\" AND"), ("sum", "==")]⟩ ∧
      ofText (text ⟨[("name", "a AND code==b")]⟩) ≠ .ok ⟨[("name", "a AND code==b")]⟩ ∧
      ofText (text ⟨[("name", "\"a\"")]⟩) ≠ .ok ⟨[("name", "\"a\"")]⟩ := by
  refine ⟨?_, ?_, ?_⟩
  · exact (ofText_text_iff (by decide +kernel)).mpr (by decide +kernel)
  · exact fun hread => absurd ((ofText_text_iff (by decide +kernel)).mp hread) (by decide +kernel)
  · exact fun hread => absurd ((ofText_text_iff (by decide +kernel)).mp hread) (by decide +kernel)

/-! ## Plain clauses -/

/-- A clause whose text has no blanks and no quotes. -/
structure PlainClause (clause : String × String) : Prop where
  field_ne : clause.1.toList ≠ []
  field : ∀ c ∈ clause.1.toList, isBlank c = false ∧ c ≠ '='
  value : ∀ c ∈ clause.2.toList, isBlank c = false ∧ c ≠ '"'

namespace PlainClause

variable {clause : String × String} (h : PlainClause clause)

include h

theorem plainField : PlainField clause.1 := ⟨h.field_ne, h.field⟩

theorem retained : Retained clause.2 where
  no_joint := fun hinside => by
    have hblank := (h.value ' ' (hinside.subset (by decide))).1
    cases hblank
  no_quotes := fun _ hquotes => (h.value '"' (List.mem_of_mem_head? hquotes.2.1)).2 rfl

end PlainClause

/-- A query of plain clauses is read back from its text. -/
theorem ofText_text {q : Query} (h : ∀ clause ∈ q.clauses, PlainClause clause) : ofText q.text = .ok q :=
  ofText_text_of_retained (fun clause hclause => (h clause hclause).plainField) fun clause hclause =>
    (h clause hclause).retained

end Query

/-! ## Plain values -/

/-- The digits lie between `0` and `f`. -/
theorem toNat_of_hexValue? {c : Char} (h : (hexValue? c).isSome = true) : 48 ≤ c.toNat ∧ c.toNat ≤ 102 := by
  unfold hexValue? at h
  split at h
  · rename_i hdigit
    unfold Char.isDigit at hdigit
    simp only [Bool.and_eq_true, decide_eq_true_eq, ge_iff_le, UInt32.le_iff_toNat_le] at hdigit
    have hle : c.toNat ≤ 57 := hdigit.2
    exact ⟨hdigit.1, by omega⟩
  · split at h
    · rename_i hletter
      have hge : 97 ≤ c.toNat := hletter.1
      exact ⟨by omega, hletter.2⟩
    · split at h
      · rename_i hletter
        have hge : 65 ≤ c.toNat := hletter.1
        have hle : c.toNat ≤ 70 := hletter.2
        omega
      · cases h

/-- A digit is no blank and no quote. -/
theorem plain_of_hexValue? {c : Char} (h : (hexValue? c).isSome = true) : isBlank c = false ∧ c ≠ '"' := by
  obtain ⟨hge, hle⟩ := toNat_of_hexValue? h
  constructor
  · simp [isBlank]
    omega
  · rintro rfl
    simp at hge

/-- The written form of an identifier has no blanks and no quotes. -/
theorem RecordId.plain_text {kind : IdKind} (id : RecordId kind) :
    ∀ c ∈ id.text.toList, isBlank c = false ∧ c ≠ '"' := by
  intro c hc
  rcases Uuid.mem_text hc with rfl | hdigit
  · decide
  · exact plain_of_hexValue? hdigit

end FundLedger
