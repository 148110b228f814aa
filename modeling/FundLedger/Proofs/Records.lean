import FundLedger.Proofs.RecordFields
/-!
# Records that are read back

Every record is read back from what is written of it, whichever of its optional fields it has.  Only the sign of an
amount that is zero is lost, and the amount is the same without it.

* `Transaction.readsFields`, `Budget.readsFields` and so on: every kind of record.
* `records_survive_wire`: all of them.
-/

namespace FundLedger

open JsonForm (encode)
open RecordForm (ReadsFields)

/-! ## Transactions -/

namespace Encumbrance

/-- Every amount changed. -/
def mapAmounts (f : Decimal → Decimal) (e : Encumbrance) : Encumbrance :=
  { e with initialAmount := f e.initialAmount, awaitingPayment := f e.awaitingPayment, expended := f e.expended }

instance : RecordForm Encumbrance where
  names := ["initialAmountEncumbered", "amountAwaitingPayment", "amountExpended", "status"]
  slots e :=
    [("initialAmountEncumbered", some (encode e.initialAmount)), ("amountAwaitingPayment", some (encode e.awaitingPayment)),
     ("amountExpended", some (encode e.expended)), ("status", some (encode e.status))]
  map_fst_slots _ := rfl
  nodup_names := by decide
  encode_eq _ := rfl

theorem readsFields (e : Encumbrance) (depth : Nat) : ReadsFields depth e (e.mapAmounts .plainZero) where
  writable := by
    simp only [RecordForm.slots, List.forall_mem_cons, Option.mem_some_iff, forall_eq']
    exact ⟨.string, .string, .string, .string, List.forall_mem_nil _⟩
  decode members h := by
    simp only [HoldsSlots, RecordForm.slots, List.forall_mem_cons] at h
    obtain ⟨hinitial, hawaiting, hexpended, hstatus, -⟩ := h
    refine bind_of_eq_some (a := .named members) rfl ?_
    refine bind_of_eq_some (Fields.required_reads hinitial (reads_decimal _)) ?_
    refine bind_of_eq_some (Fields.required_reads hawaiting (reads_decimal _)) ?_
    refine bind_of_eq_some (Fields.required_reads hexpended (reads_decimal _)) ?_
    refine bind_of_eq_some (Fields.required_reads hstatus (reads_encumbranceStatus _)) ?_
    rfl

end Encumbrance

namespace Transaction

/-- Every amount changed. -/
def mapAmounts (f : Decimal → Decimal) (t : Transaction) : Transaction :=
  { t with amount := f t.amount, encumbrance := t.encumbrance.map (Encumbrance.mapAmounts f) }

instance : RecordForm Transaction where
  names := ["id", "amount", "currency", "transactionType", "fiscalYearId", "fromFundId", "toFundId", "expenseClassId",
    "source", "description", "createdDate", "encumbrance"]
  slots t :=
    [("id", some (encode t.id)), ("amount", some (encode t.amount)), ("currency", some (encode t.currency)),
     ("transactionType", some (encode t.kind)), ("fiscalYearId", some (encode t.fiscalYear)),
     ("fromFundId", t.fromFund.map encode), ("toFundId", t.toFund.map encode),
     ("expenseClassId", t.expenseClass.map encode), ("source", some (encode t.source)),
     ("description", t.description.map encode), ("createdDate", some (encode t.createdDate)),
     ("encumbrance", t.encumbrance.map encode)]
  map_fst_slots _ := rfl
  nodup_names := by decide
  encode_eq t := by
    change Json.object (_ ++ _) = _
    simp only [present_nil, present_cons_some, present_cons_map, List.append_assoc, List.cons_append, List.nil_append,
      List.append_nil]

theorem readsFields {t : Transaction} (hcreated : t.createdDate.IsWritable) :
    ReadsFields 1 t (t.mapAmounts .plainZero) where
  writable := by
    simp only [RecordForm.slots, List.forall_mem_cons, Option.mem_some_iff, forall_eq', Option.mem_map,
      forall_exists_index, and_imp, forall_apply_eq_imp_iff₂]
    exact ⟨.string, .string, .string, .string, .string, fun _ _ => .string, fun _ _ => .string, fun _ _ => .string, .string,
      fun _ _ => .string, .string, fun e _ => (e.readsFields 0).isWritable, List.forall_mem_nil _⟩
  decode members h := by
    simp only [HoldsSlots, RecordForm.slots, List.forall_mem_cons] at h
    obtain ⟨hid, hamount, hcurrency, hkind, hyear, hfrom, hto, hclass, hsource, hdescription, hdate, hencumbrance, -⟩ := h
    refine bind_of_eq_some (a := .named members) rfl ?_
    refine bind_of_eq_some (Fields.required_reads hid (reads_id _)) ?_
    refine bind_of_eq_some (Fields.required_reads hamount (reads_decimal _)) ?_
    refine bind_of_eq_some (Fields.required_reads hcurrency (reads_currency _)) ?_
    refine bind_of_eq_some (Fields.required_reads hkind (reads_transactionKind _)) ?_
    refine bind_of_eq_some (Fields.required_reads hyear (reads_id _)) ?_
    refine bind_of_eq_some (Fields.optional_reads hfrom (rel_reads reads_id)) ?_
    refine bind_of_eq_some (Fields.optional_reads hto (rel_reads reads_id)) ?_
    refine bind_of_eq_some (Fields.optional_reads hclass (rel_reads reads_id)) ?_
    refine bind_of_eq_some (Fields.withDefault_reads hsource (reads_transactionSource _)) ?_
    refine bind_of_eq_some (Fields.optional_reads hdescription (rel_reads reads_string)) ?_
    refine bind_of_eq_some (Fields.required_reads hdate (reads_instant hcreated)) ?_
    refine bind_of_eq_some (Fields.optional_reads hencumbrance (rel_reads_map (fun e => (e.readsFields 0).reads) _)) ?_
    rfl

end Transaction

/-! ## Budgets -/

namespace Totals

/-- Totals whose amounts are found by their names are found. -/
theorem ofFields?_of_forall {α : Type} {get? : String → Option α} {t : Totals α}
    (h : ∀ f ∈ t.fields, get? f.1 = some f.2) : ofFields? get? = some t := by
  simp only [fields, List.forall_mem_cons] at h
  obtain ⟨hinitial, hto, hfrom, htransfers, hencumbered, hawaiting, hexpenditures, hcredits, hallocated, hfunding,
    hunavailable, havailable, hcash, hoverEncumbrance, hoverExpended, -⟩ := h
  unfold ofFields?
  rw [hinitial, hto, hfrom, htransfers, hencumbered, hawaiting, hexpenditures, hcredits, hallocated, hfunding,
    hunavailable, havailable, hcash, hoverEncumbrance, hoverExpended]
  rfl

theorem fields_map {α β : Type} (f : α → β) (t : Totals α) : (t.map f).fields = t.fields.map fun p => (p.1, f p.2) := rfl

/-- The totals with what is written of them. -/
def slots (t : Totals Decimal) : List (String × Option Json) := t.fields.map fun f => (f.1, some (encode f.2))

theorem present_slots (t : Totals Decimal) : present t.slots = t.members := rfl

theorem isWritable_of_mem_slots {t : Totals Decimal} (depth : Nat) :
    ∀ s ∈ t.slots, ∀ v ∈ s.2, Json.IsWritable depth v := by
  intro s hs v hv
  obtain ⟨f, -, rfl⟩ := List.mem_map.mp hs
  obtain rfl := Option.mem_some_iff.mp hv
  exact .string

theorem ofRecord?_reads {t : Totals Decimal} {members : List (String × Json)} (h : HoldsSlots members t.slots) :
    ofRecord? (.named members) = some (t.map .plainZero) := by
  refine ofFields?_of_forall fun f hf => ?_
  rw [fields_map] at hf
  obtain ⟨p, hp, rfl⟩ := List.mem_map.mp hf
  exact Fields.required_reads (h _ (List.mem_map_of_mem hp)) (reads_decimal p.2)

end Totals

namespace Budget

/-- Every amount changed, and the shares that limit them. -/
def mapAmounts (f : Decimal → Decimal) (b : Budget) : Budget :=
  { b with
    allowableEncumbrance := b.allowableEncumbrance.map f
    allowableExpenditure := b.allowableExpenditure.map f
    totals := b.totals.map f }

instance : RecordForm Budget where
  names := ["id", "name", "fundId", "fiscalYearId", "currency", "budgetStatus", "allowableEncumbrance",
    "allowableExpenditure"] ++ (Totals.names ++ ["_version"])
  slots b :=
    [("id", some (encode b.id)), ("name", some (encode b.name)), ("fundId", some (encode b.fund)),
     ("fiscalYearId", some (encode b.fiscalYear)), ("currency", some (encode b.currency)),
     ("budgetStatus", some (encode b.status)), ("allowableEncumbrance", b.allowableEncumbrance.map encode),
     ("allowableExpenditure", b.allowableExpenditure.map encode)] ++ (b.totals.slots ++ [("_version", some (encode b.version))])
  map_fst_slots _ := rfl
  nodup_names := by decide +kernel
  encode_eq b := by
    change Json.object (_ ++ _) = _
    simp only [present_nil, present_cons_some, present_cons_map, present_append, Totals.present_slots, List.append_assoc,
      List.cons_append, List.nil_append]

theorem readsFields (b : Budget) (depth : Nat) : ReadsFields depth b (b.mapAmounts .plainZero) where
  writable := by
    simp only [RecordForm.slots, List.forall_mem_append, List.forall_mem_cons, Option.mem_some_iff, forall_eq',
      Option.mem_map, forall_exists_index, and_imp, forall_apply_eq_imp_iff₂]
    exact ⟨⟨.string, .string, .string, .string, .string, .string, fun _ _ => .string, fun _ _ => .string,
      List.forall_mem_nil _⟩, Totals.isWritable_of_mem_slots depth,
      .integer ⟨b.version.le_toInt, b.version.toInt_lt.trans (by decide)⟩, List.forall_mem_nil _⟩
  decode members h := by
    simp only [HoldsSlots, RecordForm.slots, List.forall_mem_append, List.forall_mem_cons] at h
    obtain ⟨⟨hid, hname, hfund, hyear, hcurrency, hstatus, hencumbrance, hexpenditure, -⟩, htotals, hwritten, -⟩ := h
    refine bind_of_eq_some (a := .named members) rfl ?_
    refine bind_of_eq_some (Fields.required_reads hid (reads_id _)) ?_
    refine bind_of_eq_some (Fields.required_reads hname (reads_string _)) ?_
    refine bind_of_eq_some (Fields.required_reads hfund (reads_id _)) ?_
    refine bind_of_eq_some (Fields.required_reads hyear (reads_id _)) ?_
    refine bind_of_eq_some (Fields.required_reads hcurrency (reads_currency _)) ?_
    refine bind_of_eq_some (Fields.withDefault_reads hstatus (reads_budgetStatus _)) ?_
    refine bind_of_eq_some (Fields.optional_reads hencumbrance (rel_reads_map reads_decimal _)) ?_
    refine bind_of_eq_some (Fields.optional_reads hexpenditure (rel_reads_map reads_decimal _)) ?_
    refine bind_of_eq_some (Totals.ofRecord?_reads htotals) ?_
    refine bind_of_eq_some (Fields.withDefault_reads hwritten (reads_word _)) ?_
    rfl

end Budget

namespace Totals.Drift

/-- Both amounts changed. -/
def mapAmounts (f : Decimal → Decimal) (d : Totals.Drift) : Totals.Drift :=
  { d with cached := f d.cached, recomputed := f d.recomputed }

instance : RecordForm Totals.Drift where
  names := ["field", "cached", "recomputed"]
  slots d :=
    [("field", some (encode d.field)), ("cached", some (encode d.cached)), ("recomputed", some (encode d.recomputed))]
  map_fst_slots _ := rfl
  nodup_names := by decide
  encode_eq _ := rfl

theorem readsFields (d : Totals.Drift) (depth : Nat) : ReadsFields depth d (d.mapAmounts .plainZero) where
  writable := by
    simp only [RecordForm.slots, List.forall_mem_cons, Option.mem_some_iff, forall_eq']
    exact ⟨.string, .string, .string, List.forall_mem_nil _⟩
  decode members h := by
    simp only [HoldsSlots, RecordForm.slots, List.forall_mem_cons] at h
    obtain ⟨hfield, hcached, hrecomputed, -⟩ := h
    refine bind_of_eq_some (a := .named members) rfl ?_
    refine bind_of_eq_some (Fields.required_reads hfield (reads_string _)) ?_
    refine bind_of_eq_some (Fields.required_reads hcached (reads_decimal _)) ?_
    refine bind_of_eq_some (Fields.required_reads hrecomputed (reads_decimal _)) ?_
    rfl

end Totals.Drift

namespace Reconciliation

/-- Every amount changed. -/
def mapAmounts (f : Decimal → Decimal) (r : Reconciliation) : Reconciliation :=
  ⟨r.budget.mapAmounts f, r.drift.map (Totals.Drift.mapAmounts f)⟩

instance : RecordForm Reconciliation where
  names := ["budget", "drift"]
  slots r := [("budget", some (encode r.budget)), ("drift", some (encode r.drift))]
  map_fst_slots _ := rfl
  nodup_names := by decide
  encode_eq _ := rfl

theorem readsFields (r : Reconciliation) : ReadsFields 2 r (r.mapAmounts .plainZero) where
  writable := by
    simp only [RecordForm.slots, List.forall_mem_cons, Option.mem_some_iff, forall_eq']
    exact ⟨(r.budget.readsFields 1).isWritable, isWritable_list fun d _ => (d.readsFields 0).isWritable,
      List.forall_mem_nil _⟩
  decode members h := by
    simp only [HoldsSlots, RecordForm.slots, List.forall_mem_cons] at h
    obtain ⟨hbudget, hdrift, -⟩ := h
    have hreads : Reads r.drift (r.drift.map (Totals.Drift.mapAmounts .plainZero)) :=
      reads_list (List.forall₂_map_right_iff.mpr (List.forall₂_same.mpr fun d _ => (d.readsFields 0).reads))
    refine bind_of_eq_some (a := .named members) rfl ?_
    refine bind_of_eq_some (Fields.required_reads hbudget (r.budget.readsFields 1).reads) ?_
    refine bind_of_eq_some (Fields.required_reads hdrift hreads) ?_
    rfl

end Reconciliation

/-! ## Funds and expense classes -/

namespace Fund

instance : RecordForm Fund where
  names := ["id", "code", "name", "ledgerId", "fundStatus", "allocatedFromIds", "allocatedToIds"]
  slots f :=
    [("id", some (encode f.id)), ("code", some (encode f.code)), ("name", some (encode f.name)),
     ("ledgerId", some (encode f.ledger)), ("fundStatus", some (encode f.status)),
     ("allocatedFromIds", some (encode f.allocatedFrom)), ("allocatedToIds", some (encode f.allocatedTo))]
  map_fst_slots _ := rfl
  nodup_names := by decide
  encode_eq _ := rfl

theorem isWritable_ids (ids : List FundId) : Json.IsWritable 1 (encode ids) := isWritable_list fun _ _ => .string

theorem reads_ids (ids : List FundId) : Reads ids ids := reads_list (List.forall₂_same.mpr fun id _ => reads_id id)

theorem readsFields (f : Fund) : ReadsFields 1 f f where
  writable := by
    simp only [RecordForm.slots, List.forall_mem_cons, Option.mem_some_iff, forall_eq']
    exact ⟨.string, .string, .string, .string, .string, isWritable_ids _, isWritable_ids _,
      List.forall_mem_nil _⟩
  decode members h := by
    simp only [HoldsSlots, RecordForm.slots, List.forall_mem_cons] at h
    obtain ⟨hid, hcode, hname, hledger, hstatus, hfrom, hto, -⟩ := h
    refine bind_of_eq_some (a := .named members) rfl ?_
    refine bind_of_eq_some (Fields.required_reads hid (reads_id _)) ?_
    refine bind_of_eq_some (Fields.required_reads hcode (reads_string _)) ?_
    refine bind_of_eq_some (Fields.required_reads hname (reads_string _)) ?_
    refine bind_of_eq_some (Fields.required_reads hledger (reads_id _)) ?_
    refine bind_of_eq_some (Fields.withDefault_reads hstatus (reads_fundStatus _)) ?_
    refine bind_of_eq_some (Fields.withDefault_reads hfrom (reads_ids _)) ?_
    refine bind_of_eq_some (Fields.withDefault_reads hto (reads_ids _)) ?_
    rfl

end Fund

namespace ExpenseClass

instance : RecordForm ExpenseClass where
  names := ["id", "name", "code", "externalAccountNumberExt"]
  slots c :=
    [("id", some (encode c.id)), ("name", some (encode c.name)), ("code", c.code.map encode),
     ("externalAccountNumberExt", c.externalAccountExtension.map encode)]
  map_fst_slots _ := rfl
  nodup_names := by decide
  encode_eq c := by
    change Json.object (_ ++ _) = _
    simp only [present_nil, present_cons_some, present_cons_map, List.cons_append, List.nil_append, List.append_nil]

theorem readsFields (c : ExpenseClass) : ReadsFields 0 c c where
  writable := by
    simp only [RecordForm.slots, List.forall_mem_cons, Option.mem_some_iff, forall_eq', Option.mem_map,
      forall_exists_index, and_imp, forall_apply_eq_imp_iff₂]
    exact ⟨.string, .string, fun _ _ => .string, fun _ _ => .string, List.forall_mem_nil _⟩
  decode members h := by
    simp only [HoldsSlots, RecordForm.slots, List.forall_mem_cons] at h
    obtain ⟨hid, hname, hcode, hextension, -⟩ := h
    refine bind_of_eq_some (a := .named members) rfl ?_
    refine bind_of_eq_some (Fields.required_reads hid (reads_id _)) ?_
    refine bind_of_eq_some (Fields.required_reads hname (reads_string _)) ?_
    refine bind_of_eq_some (Fields.optional_reads hcode (rel_reads reads_string)) ?_
    refine bind_of_eq_some (Fields.optional_reads hextension (rel_reads reads_string)) ?_
    rfl

end ExpenseClass

namespace BudgetExpenseClass

instance : RecordForm BudgetExpenseClass where
  names := ["id", "budgetId", "expenseClassId", "status"]
  slots l :=
    [("id", some (encode l.id)), ("budgetId", some (encode l.budget)), ("expenseClassId", some (encode l.expenseClass)),
     ("status", some (encode l.status))]
  map_fst_slots _ := rfl
  nodup_names := by decide
  encode_eq _ := rfl

theorem readsFields (l : BudgetExpenseClass) : ReadsFields 0 l l where
  writable := by
    simp only [RecordForm.slots, List.forall_mem_cons, Option.mem_some_iff, forall_eq']
    exact ⟨.string, .string, .string, .string, List.forall_mem_nil _⟩
  decode members h := by
    simp only [HoldsSlots, RecordForm.slots, List.forall_mem_cons] at h
    obtain ⟨hid, hbudget, hclass, hstatus, -⟩ := h
    refine bind_of_eq_some (a := .named members) rfl ?_
    refine bind_of_eq_some (Fields.required_reads hid (reads_id _)) ?_
    refine bind_of_eq_some (Fields.required_reads hbudget (reads_id _)) ?_
    refine bind_of_eq_some (Fields.required_reads hclass (reads_id _)) ?_
    refine bind_of_eq_some (Fields.withDefault_reads hstatus (reads_expenseClassStatus _)) ?_
    rfl

end BudgetExpenseClass

namespace ExpenseClassTotal

/-- Every amount changed, and the share. -/
def mapAmounts (f : Decimal → Decimal) (t : ExpenseClassTotal) : ExpenseClassTotal :=
  { t with
    encumbered := f t.encumbered
    awaitingPayment := f t.awaitingPayment
    expended := f t.expended
    percentageExpended := t.percentageExpended.map f }

instance : RecordForm ExpenseClassTotal where
  names := ["id", "expenseClassName", "encumbered", "awaitingPayment", "expended", "percentageExpended"]
  slots t :=
    [("id", some (encode t.id)), ("expenseClassName", some (encode t.name)), ("encumbered", some (encode t.encumbered)),
     ("awaitingPayment", some (encode t.awaitingPayment)), ("expended", some (encode t.expended)),
     ("percentageExpended", some (t.percentageExpended.elim .null encode))]
  map_fst_slots _ := rfl
  nodup_names := by decide
  encode_eq _ := rfl

theorem readsFields (t : ExpenseClassTotal) : ReadsFields 0 t (t.mapAmounts .plainZero) where
  writable := by
    simp only [RecordForm.slots, List.forall_mem_cons, Option.mem_some_iff, forall_eq']
    refine ⟨.string, .string, .string, .string, .string, ?_, List.forall_mem_nil _⟩
    cases t.percentageExpended with
    | none => exact .null
    | some _ => exact .string
  decode members h := by
    simp only [HoldsSlots, RecordForm.slots, List.forall_mem_cons] at h
    obtain ⟨hid, hname, hencumbered, hawaiting, hexpended, hshare, -⟩ := h
    refine bind_of_eq_some (a := .named members) rfl ?_
    refine bind_of_eq_some (Fields.required_reads hid (reads_id _)) ?_
    refine bind_of_eq_some (Fields.required_reads hname (reads_string _)) ?_
    refine bind_of_eq_some (Fields.required_reads hencumbered (reads_decimal _)) ?_
    refine bind_of_eq_some (Fields.required_reads hawaiting (reads_decimal _)) ?_
    refine bind_of_eq_some (Fields.required_reads hexpended (reads_decimal _)) ?_
    refine bind_of_eq_some (Fields.nullable_reads hshare (rel_reads_map reads_decimal _)) ?_
    rfl

end ExpenseClassTotal

/-! ## Groups -/

namespace GroupFundFiscalYear

instance : RecordForm GroupFundFiscalYear where
  names := ["id", "groupId", "fundId", "fiscalYearId", "budgetId"]
  slots l :=
    [("id", some (encode l.id)), ("groupId", some (encode l.group)), ("fundId", some (encode l.fund)),
     ("fiscalYearId", some (encode l.fiscalYear)), ("budgetId", l.budget.map encode)]
  map_fst_slots _ := rfl
  nodup_names := by decide
  encode_eq l := by
    change Json.object (_ ++ _) = _
    simp only [present_nil, present_cons_some, present_cons_map, List.cons_append, List.nil_append, List.append_nil]

theorem readsFields (l : GroupFundFiscalYear) : ReadsFields 0 l l where
  writable := by
    simp only [RecordForm.slots, List.forall_mem_cons, Option.mem_some_iff, forall_eq', Option.mem_map,
      forall_exists_index, and_imp, forall_apply_eq_imp_iff₂]
    exact ⟨.string, .string, .string, .string, fun _ _ => .string, List.forall_mem_nil _⟩
  decode members h := by
    simp only [HoldsSlots, RecordForm.slots, List.forall_mem_cons] at h
    obtain ⟨hid, hgroup, hfund, hyear, hbudget, -⟩ := h
    refine bind_of_eq_some (a := .named members) rfl ?_
    refine bind_of_eq_some (Fields.required_reads hid (reads_id _)) ?_
    refine bind_of_eq_some (Fields.required_reads hgroup (reads_id _)) ?_
    refine bind_of_eq_some (Fields.required_reads hfund (reads_id _)) ?_
    refine bind_of_eq_some (Fields.required_reads hyear (reads_id _)) ?_
    refine bind_of_eq_some (Fields.optional_reads hbudget (rel_reads reads_id)) ?_
    rfl

end GroupFundFiscalYear

namespace GroupFiscalYearSummary

/-- Every amount changed. -/
def mapAmounts (f : Decimal → Decimal) (s : GroupFiscalYearSummary) : GroupFiscalYearSummary :=
  { s with totals := s.totals.map f }

instance : RecordForm GroupFiscalYearSummary where
  names := ["groupId", "fiscalYearId"] ++ Totals.names
  slots s := [("groupId", some (encode s.group)), ("fiscalYearId", some (encode s.fiscalYear))] ++ s.totals.slots
  map_fst_slots _ := rfl
  nodup_names := by decide +kernel
  encode_eq _ := rfl

theorem readsFields (s : GroupFiscalYearSummary) : ReadsFields 0 s (s.mapAmounts .plainZero) where
  writable := by
    simp only [RecordForm.slots, List.forall_mem_append, List.forall_mem_cons, Option.mem_some_iff, forall_eq']
    exact ⟨⟨.string, .string, List.forall_mem_nil _⟩, Totals.isWritable_of_mem_slots 0⟩
  decode members h := by
    simp only [HoldsSlots, RecordForm.slots, List.forall_mem_append, List.forall_mem_cons] at h
    obtain ⟨⟨hgroup, hyear, -⟩, htotals⟩ := h
    refine bind_of_eq_some (a := .named members) rfl ?_
    refine bind_of_eq_some (Fields.required_reads hgroup (reads_id _)) ?_
    refine bind_of_eq_some (Fields.required_reads hyear (reads_id _)) ?_
    refine bind_of_eq_some (Totals.ofRecord?_reads htotals) ?_
    rfl

end GroupFiscalYearSummary

/-! ## All records -/

/-- Every record survives being written and read, with any of its optional fields, and with members that it does not
know.  What comes back has the same amounts to the place; a zero has lost its sign, if it had one. -/
theorem records_survive_wire :
    (∀ d : Decimal, d.plainZero ≈ d ∧ d.plainZero.scale = d.scale ∧
      (d.negative = false ∨ d.mantissa ≠ 0 → d.plainZero = d)) ∧
    (∀ t : Transaction, t.createdDate.IsWritable → SurvivesWire t (t.mapAmounts .plainZero)) ∧
    (∀ e : Encumbrance, SurvivesWire e (e.mapAmounts .plainZero)) ∧
    (∀ b : Budget, SurvivesWire b (b.mapAmounts .plainZero)) ∧
    (∀ r : Reconciliation, SurvivesWire r (r.mapAmounts .plainZero)) ∧
    (∀ f : Fund, SurvivesWire f f) ∧
    (∀ c : ExpenseClass, SurvivesWire c c) ∧
    (∀ l : BudgetExpenseClass, SurvivesWire l l) ∧
    (∀ t : ExpenseClassTotal, SurvivesWire t (t.mapAmounts .plainZero)) ∧
    (∀ l : GroupFundFiscalYear, SurvivesWire l l) ∧
    (∀ s : GroupFiscalYearSummary, SurvivesWire s (s.mapAmounts .plainZero)) where
  left d := ⟨d.plainZero_equiv, rfl, Decimal.plainZero_eq⟩
  right := by
    refine ⟨fun t hcreated => ?_, fun e => ?_, fun b => ?_, fun r => ?_, fun f => ?_, fun c => ?_, fun l => ?_,
      fun t => ?_, fun l => ?_, fun s => ?_⟩
    · exact (Transaction.readsFields hcreated).survivesWire (by decide)
    · exact (e.readsFields 0).survivesWire (by decide)
    · exact (b.readsFields 0).survivesWire (by decide)
    · exact r.readsFields.survivesWire (by decide)
    · exact f.readsFields.survivesWire (by decide)
    · exact c.readsFields.survivesWire (by decide)
    · exact l.readsFields.survivesWire (by decide)
    · exact t.readsFields.survivesWire (by decide)
    · exact l.readsFields.survivesWire (by decide)
    · exact s.readsFields.survivesWire (by decide)

/-- An encumbrance of the leap second at the end of 2016, of which minus zero was spent. -/
def leapSecondEncumbrance : Transaction :=
  { Transaction.create ⟨⟨1, by decide⟩⟩ .encumbrance 12.50 .usd ⟨⟨2, by decide⟩⟩ ⟨1483228799, 1500000000⟩ with
    fromFund := some ⟨⟨3, by decide⟩⟩
    description := some "3\" pipes"
    encumbrance := some { Encumbrance.reserve 12.50 with expended := -.zero } }

/-- The budget that it is reserved from, with the largest version that there is. -/
def pipesBudget : Budget :=
  { Budget.create ⟨⟨1, by decide⟩⟩ "Pipes" ⟨⟨3, by decide⟩⟩ ⟨⟨2, by decide⟩⟩ .usd with version := 9223372036854775807 }

theorem records_survive_wire_leapSecond :
    leapSecondEncumbrance.createdDate.IsWritable ∧
      SurvivesWire leapSecondEncumbrance (leapSecondEncumbrance.mapAmounts .plainZero) ∧
      SurvivesWire pipesBudget (pipesBudget.mapAmounts .plainZero) := by
  have hcreated : leapSecondEncumbrance.createdDate.IsWritable := ⟨by decide +kernel, by decide +kernel⟩
  exact ⟨hcreated, records_survive_wire.2.1 _ hcreated, records_survive_wire.2.2.2.1 _⟩

end FundLedger
