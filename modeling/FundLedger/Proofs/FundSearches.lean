import FundLedger.Proofs.Consistency
import FundLedger.Proofs.QueryText
import FundLedger.Proofs.Runs
import FundLedger.Rest.Client
import Mathlib.Data.List.Sublists
/-!
# Searching a server for the transactions of funds

A server that answers a search with the transactions its query selects, each once and in any order, gives a client
the transactions of some funds as the store does that holds them: the searches that the client chooses find all of
them, and what they find twice or too much is dropped.

* `RestServer.AnswersSearches`: what is expected of the server.
* `RestServer.fundQueries_selects_iff`: the searches and the filters behind them select what the store gives.
* `RestCall.Gives`: what a call ends with when its requests are answered, with one rule for each of its parts.
* `RestServer.search_gives`, `RestServer.searches_give`: one search, and a sequence of them.
* `RestServer.transactionsByFunds_eq_store`: the answers of client and store are one list.
-/

namespace FundLedger

open JsonForm (encode)

/-! ## What is expected of a server -/

/-- The query of a request; a request without one asks for all records. -/
def RestRequest.query (r : RestRequest) : Except StoreError Query :=
  Query.ofText ((r.parameters.lookup "query").getD "")

/-- A server that answers a search for transactions with those that the query of the request selects, each of them once
and in any order. -/
def RestServer.AnswersSearches {σ : Type} (answer : RestRequest → StateM σ RestOutcome) (stored : List Transaction) :
    Prop :=
  ∀ (asked q : Query) (state : σ), (searchRequest .transactions asked).query = .ok q →
    ∃ response found, (answer (searchRequest .transactions asked) state).1 = .ok response ∧ response.isSuccess = true ∧
      records .transactions response = .ok found ∧ found.Perm (q.filter stored)

/-! ## Tables of found records -/

namespace Table

variable {ρ : Type} {kind : IdKind} [Keyed ρ kind] {t t' : Table ρ} {rs : List ρ} {r : ρ}

/-- Records of one table all find a place: two under one identifier are the same. -/
theorem mem_ofList (h : ∀ a ∈ rs, a ∈ t) : r ∈ ofList rs ↔ r ∈ rs := by
  have hfold : ∀ start : Table ρ, (∀ a ∈ start, a ∈ t) → (r ∈ rs.foldl put start ↔ r ∈ start ∨ r ∈ rs) := by
    induction rs with
    | nil => simp
    | cons a rest ih =>
      obtain ⟨ha, hrest⟩ := List.forall_mem_cons.mp h
      intro start hstart
      have hput : ∀ b, b ∈ start.put a ↔ b = a ∨ b ∈ start := by
        intro b
        rw [mem_put]
        refine ⟨fun hb => hb.imp_right And.left, ?_⟩
        rintro (hb | hb)
        · exact .inl hb
        · by_cases hid : Keyed.id b = Keyed.id a
          · exact .inl (eq_of_id_eq (hstart b hb) ha hid)
          · exact .inr ⟨hb, hid⟩
      have hnext : ∀ b ∈ start.put a, b ∈ t := by
        intro b hb
        rcases (hput b).mp hb with rfl | hb
        · exact ha
        · exact hstart b hb
      rw [List.foldl_cons, ih hrest _ hnext, hput, List.mem_cons, or_assoc, or_left_comm]
  refine (hfold empty fun a ha => ?_).trans (or_iff_right ?_)
  · cases ha
  · exact List.not_mem_nil

/-- What is left of two tables by two conditions is one list if it has the same members. -/
theorem filter_eq_filter {p p' : ρ → Bool} (h : ∀ r, r ∈ t ∧ p r = true ↔ r ∈ t' ∧ p' r = true) :
    t.records.filter p = t'.records.filter p' := by
  have heq : (⟨t.records.filter p, t.ascending.filter _⟩ : Table ρ) = ⟨t'.records.filter p', t'.ascending.filter _⟩ :=
    ext_of_mem_iff fun r => by rw [mem_def, mem_def, List.mem_filter, List.mem_filter, ← mem_def, ← mem_def, h]
  exact congrArg records heq

end Table

/-! ## Fields of transactions -/

namespace Json

variable {name name' : String} {members members' : List (String × Json)}

theorem member?_append : member? name (members ++ members') = (member? name members).or (member? name members') := by
  unfold member?
  rw [List.find?_append]
  cases members.find? fun m => m.1 == name <;> rfl

theorem member?_nil : member? name [] = none := rfl

theorem member?_cons {value : Json} :
    member? name ((name', value) :: members) = if name' == name then some value else member? name members := by
  unfold member?
  rw [List.find?_cons]
  cases name' == name <;> rfl

theorem member?_memberIfSome {α : Type} [JsonForm α] (a : Option α) :
    member? name (memberIfSome name' a) = if name' == name then a.map encode else none := by
  cases a with
  | none => simp [memberIfSome, member?_nil]
  | some a => simp [memberIfSome, member?_cons, member?_nil]

end Json

namespace Transaction

variable (tx : Transaction)

theorem field?_fromFund : (encode tx).field? "fromFundId" = tx.fromFund.map encode := by
  change Json.member? "fromFundId" (_ ++ _) = _
  simp [Json.member?_append, Json.member?_cons, Json.member?_memberIfSome]

theorem field?_toFund : (encode tx).field? "toFundId" = tx.toFund.map encode := by
  change Json.member? "toFundId" (_ ++ _) = _
  simp [Json.member?_append, Json.member?_cons, Json.member?_memberIfSome]

end Transaction

namespace Query

variable {record : Json} {field : String}

/-- A clause with the written form of an identifier, on a field that may hold one. -/
theorem agrees_text_of_optional {kind : IdKind} {id? : Option (RecordId kind)}
    (hfield : record.field? field = id?.map encode) (id : RecordId kind) :
    agrees record (field, id.text) = (id? == some id) := by
  cases id? with
  | none =>
    unfold agrees
    rw [hfield]
    rfl
  | some id' =>
    rw [agrees_text hfield, Bool.eq_iff_iff, decide_eq_true_iff, beq_iff_eq, Option.some.injEq]

/-- A clause with the name of a kind. -/
theorem agrees_kind (tx : Transaction) (kind : TransactionKind) :
    agrees (encode tx) ("transactionType", kind.name) = decide (tx.kind = kind) := by
  have hfield : (encode tx).field? "transactionType" = some (.string tx.kind.name) := rfl
  unfold agrees
  rw [hfield, Bool.eq_iff_iff, decide_eq_true_iff, beq_iff_eq]
  exact ⟨TransactionKind.name_injective, congrArg _⟩

end Query

/-! ## Searches for the transactions of funds -/

namespace RestServer

variable {funds : List FundId} {fiscalYear : FiscalYearId} {kinds : List TransactionKind} {q : Query}

theorem byFiscalYear_selects (tx : Transaction) :
    (byFiscalYear fiscalYear).selects (encode tx) = decide (tx.fiscalYear = fiscalYear) := by
  have hyear : (encode tx).field? "fiscalYearId" = some (encode tx.fiscalYear) := rfl
  change [("fiscalYearId", fiscalYear.text)].all (Query.agrees (encode tx)) = _
  simp only [List.all_cons, List.all_nil, Query.agrees_text hyear, Bool.and_true]

/-- The search for a fiscal year, and for a kind if there is only one. -/
def searchOfYear (fiscalYear : FiscalYearId) (kinds : List TransactionKind) : Query :=
  match kinds with
  | [kind] => (byFiscalYear fiscalYear).whereEq "transactionType" kind.name
  | _ => byFiscalYear fiscalYear

/-- The search for a side of a fund. -/
def searchOfSide (fund : FundId) (fiscalYear : FiscalYearId) (kinds : List TransactionKind) (side : String) : Query :=
  (Query.whereEq .all side fund.text).and (searchOfYear fiscalYear kinds)

theorem fundQueries_singleton (fund : FundId) :
    fundQueries [fund] fiscalYear kinds = ["fromFundId", "toFundId"].map (searchOfSide fund fiscalYear kinds) := rfl

theorem fundQueries_of_ne_singleton (h : ∀ fund, funds ≠ [fund]) :
    fundQueries funds fiscalYear kinds = [searchOfYear fiscalYear kinds] :=
  match funds, h with
  | [], _ => rfl
  | [fund], h => absurd rfl (h fund)
  | _ :: _ :: _, _ => rfl

/-- A search for one kind finds no other; any other search leaves the kinds to the filter behind it. -/
theorem searchOfYear_selects_iff (tx : Transaction) :
    (searchOfYear fiscalYear kinds).selects (encode tx) = true ∧ (kinds.isEmpty || kinds.contains tx.kind) = true ↔
      tx.fiscalYear = fiscalYear ∧ (kinds.isEmpty || kinds.contains tx.kind) = true := by
  unfold searchOfYear
  split
  · rename_i kind
    have hkind : (Query.whereEq .all "transactionType" kind.name).selects (encode tx) = decide (tx.kind = kind) :=
      (Bool.and_true _).trans (Query.agrees_kind tx kind)
    change ((byFiscalYear fiscalYear).and (Query.whereEq .all "transactionType" kind.name)).selects (encode tx) = true ∧
      _ ↔ _
    rw [Query.selects_and, byFiscalYear_selects, hkind]
    simp
  · rw [byFiscalYear_selects, decide_eq_true_iff]

/-- The searches for the sides of a fund find what touches the fund, some of it twice. -/
theorem searchOfSide_selects_iff (fund : FundId) (tx : Transaction) :
    (∃ q ∈ ["fromFundId", "toFundId"].map (searchOfSide fund fiscalYear kinds), q.selects (encode tx) = true) ↔
      tx.touches fund = true ∧ (searchOfYear fiscalYear kinds).selects (encode tx) = true := by
  have hfrom : (Query.whereEq .all "fromFundId" fund.text).selects (encode tx) = (tx.fromFund == some fund) :=
    (Bool.and_true _).trans (Query.agrees_text_of_optional tx.field?_fromFund fund)
  have hto : (Query.whereEq .all "toFundId" fund.text).selects (encode tx) = (tx.toFund == some fund) :=
    (Bool.and_true _).trans (Query.agrees_text_of_optional tx.field?_toFund fund)
  simp only [List.map_cons, List.map_nil, List.mem_cons, List.not_mem_nil, or_false, exists_eq_or_imp, exists_eq_left]
  unfold searchOfSide
  rw [Query.selects_and, Query.selects_and, hfrom, hto, Transaction.touches_iff]
  simp only [Bool.and_eq_true, beq_iff_eq, or_and_right]

/-- The searches and the filters behind them select what a store gives. -/
theorem fundQueries_selects_iff (tx : Transaction) :
    (∃ q ∈ fundQueries funds fiscalYear kinds, q.selects (encode tx) = true) ∧
        ((kinds.isEmpty || kinds.contains tx.kind) && funds.any tx.touches) = true ↔
      tx.isAmong funds fiscalYear kinds = true := by
  have hfound : (∃ q ∈ fundQueries funds fiscalYear kinds, q.selects (encode tx) = true) ∧ funds.any tx.touches = true ↔
      (searchOfYear fiscalYear kinds).selects (encode tx) = true ∧ funds.any tx.touches = true := by
    by_cases hone : ∃ fund, funds = [fund]
    · obtain ⟨fund, rfl⟩ := hone
      rw [fundQueries_singleton, searchOfSide_selects_iff]
      simp [and_comm]
    · rw [fundQueries_of_ne_singleton (not_exists.mp hone)]
      simp
  unfold Transaction.isAmong
  rw [Bool.and_eq_true, Bool.and_eq_true, Bool.and_eq_true, beq_iff_eq, ← searchOfYear_selects_iff]
  rw [and_left_comm, hfound, and_left_comm, and_assoc]

/-! ## Texts of the searches -/

/-- The fields that the searches are about. -/
def searchFields : List String := ["fiscalYearId", "transactionType", "fromFundId", "toFundId"]

theorem plainClause_of_mem {field value : String} (hfield : field ∈ searchFields)
    (hvalue : ∀ c ∈ value.toList, isBlank c = false ∧ c ≠ '"') : Query.PlainClause (field, value) := by
  have hnames : ∀ field ∈ searchFields,
      field.toList ≠ [] ∧ field.toList.all (fun c => !isBlank c && c != '=') = true := by decide
  obtain ⟨hne, hplain⟩ := hnames field hfield
  exact ⟨hne, fun c hc => by simpa using List.all_eq_true.mp hplain c hc, hvalue⟩

/-- The name of a kind has no blanks and no quotes. -/
theorem plain_kindName (kind : TransactionKind) : ∀ c ∈ kind.name.toList, isBlank c = false ∧ c ≠ '"' := by
  have hplain : kind.name.toList.all (fun c => !isBlank c && c != '"') = true := by cases kind <;> decide
  intro c hc
  simpa using List.all_eq_true.mp hplain c hc

theorem searchOfYear_plain : ∀ clause ∈ (searchOfYear fiscalYear kinds).clauses, Query.PlainClause clause := by
  have hyear : Query.PlainClause ("fiscalYearId", fiscalYear.text) :=
    plainClause_of_mem (by decide) fiscalYear.plain_text
  unfold searchOfYear
  split
  · rename_i kind
    have hkind : Query.PlainClause ("transactionType", kind.name) := plainClause_of_mem (by decide) (plain_kindName kind)
    exact List.forall_mem_cons.mpr ⟨hyear, List.forall_mem_singleton.mpr hkind⟩
  · exact List.forall_mem_singleton.mpr hyear

/-- The clauses of the searches are read back from their texts. -/
theorem fundQueries_plain (hq : q ∈ fundQueries funds fiscalYear kinds) :
    ∀ clause ∈ q.clauses, Query.PlainClause clause := by
  by_cases hone : ∃ fund, funds = [fund]
  · obtain ⟨fund, rfl⟩ := hone
    rw [fundQueries_singleton] at hq
    obtain ⟨side, hside, rfl⟩ := List.mem_map.mp hq
    have hfield : side ∈ searchFields := List.mem_cons_of_mem _ (List.mem_cons_of_mem _ hside)
    exact List.forall_mem_cons.mpr ⟨plainClause_of_mem hfield fund.plain_text, searchOfYear_plain⟩
  · rw [fundQueries_of_ne_singleton (not_exists.mp hone), List.mem_singleton] at hq
    rw [hq]
    exact searchOfYear_plain

end RestServer

/-! ## Answered calls -/

namespace RestCall

variable {α β σ : Type} {answer : RestRequest → StateM σ RestOutcome} {state : σ} {call : RestCall α} {a : α}
  {post : α → Prop} {post' : β → Prop}

/-- A call whose requests are answered ends with a value of which something holds. -/
def Gives (answer : RestRequest → StateM σ RestOutcome) (call : RestCall α) (state : σ) (post : α → Prop) : Prop :=
  ∃ a state', call.run.answeredBy answer state = (.ok a, state') ∧ post a

theorem gives_pure (h : post a) : Gives answer (pure a) state post := ⟨a, state, rfl, h⟩

theorem gives_lift {result : Except StoreError α} (hresult : result = .ok a) (h : post a) :
    Gives answer (liftM result) state post := by
  rw [hresult]
  exact ⟨a, state, rfl, h⟩

theorem Gives.bind {f : α → RestCall β} (h : Gives answer call state post)
    (hf : ∀ a state', post a → Gives answer (f a) state' post') : Gives answer (call >>= f) state post' := by
  obtain ⟨a, state', hcall, hpost⟩ := h
  obtain ⟨b, state'', hnext, hpost'⟩ := hf a state' hpost
  refine ⟨b, state'', ?_, hpost'⟩
  rw [Dialogue.answeredBy_run_bind, hcall]
  exact hnext

end RestCall

namespace RestServer

open RestCall

variable {funds : List FundId} {fiscalYear : FiscalYearId} {kinds : List TransactionKind} {q : Query}

/-- A server is asked with the query that is meant. -/
theorem searchRequest_query (collection : Collection) (h : ∀ clause ∈ q.clauses, Query.PlainClause clause) :
    (searchRequest collection q).query = .ok q := by
  obtain ⟨clauses⟩ := q
  cases clauses with
  | nil => rfl
  | cons clause rest => exact Query.ofText_text h

section

variable {server : RestServer} {σ : Type} {answer : RestRequest → StateM σ RestOutcome} {stored : List Transaction}
  (hdirectory : server.address.directory.isSome = true)

include hdirectory

/-- A request that is answered with success gives the answer. -/
theorem send_gives {collection : Collection} {id : String} {request : RestRequest} {state : σ} {response : RestResponse}
    (hanswer : (answer request state).1 = .ok response) (hsuccess : response.isSuccess = true) :
    Gives answer (server.send collection id request) state (· = response) := by
  obtain ⟨directory, hdirectory⟩ := Option.isSome_iff_exists.mp hdirectory
  refine ⟨response, (answer request state).2, ?_, rfl⟩
  unfold send
  rw [hdirectory]
  refine (Dialogue.answeredBy_ask_apply answer _ _ state).trans ?_
  rw [hanswer]
  simp only [hsuccess, if_true]
  rfl

variable (hserver : AnswersSearches answer stored)

include hserver

/-- A search gives what its query selects. -/
theorem search_gives (hplain : ∀ clause ∈ q.clauses, Query.PlainClause clause) (state : σ) :
    Gives answer (server.search .transactions q) state fun found => found.Perm (q.filter stored) := by
  obtain ⟨response, found, hanswer, hsuccess, hrecords, hperm⟩ :=
    hserver q q state (searchRequest_query .transactions hplain)
  refine (send_gives hdirectory hanswer hsuccess).bind fun response' _ hresponse => ?_
  rw [hresponse]
  exact gives_lift hrecords hperm

/-- A sequence of searches gives pages, and in one of them is what one of the queries selects. -/
theorem searches_give {queries : List Query}
    (hplain : ∀ q ∈ queries, ∀ clause ∈ q.clauses, Query.PlainClause clause) (state : σ) :
    Gives answer (queries.mapM fun q => server.search .transactions q) state fun pages =>
      ∀ tx, tx ∈ pages.flatten ↔ tx ∈ stored ∧ ∃ q ∈ queries, q.selects (encode tx) = true := by
  induction queries generalizing state with
  | nil => exact gives_pure (by simp)
  | cons q rest ih =>
    obtain ⟨hq, hrest⟩ := List.forall_mem_cons.mp hplain
    rw [List.mapM_cons]
    refine (search_gives hdirectory hserver hq state).bind fun found state' hperm => ?_
    refine (ih hrest state').bind fun pages _ hmem => gives_pure fun tx => ?_
    have hfound : tx ∈ found ↔ tx ∈ stored ∧ q.selects (encode tx) = true := by
      rw [hperm.mem_iff]
      exact List.mem_filter
    simp only [List.flatten_cons, List.mem_append, hfound, hmem, List.mem_cons, exists_eq_or_imp, and_or_left]

end

/-- The client gives the transactions of the store that the server holds, in their order there. -/
theorem transactionsByFunds_gives {server : RestServer} {σ : Type} {answer : RestRequest → StateM σ RestOutcome}
    {t : Table Transaction} (hdirectory : server.address.directory.isSome = true)
    (hserver : AnswersSearches answer t.records) (state : σ) :
    Gives answer (server.transactionsByFunds funds fiscalYear kinds) state
      (· = t.records.filter fun tx => tx.isAmong funds fiscalYear kinds) := by
  unfold transactionsByFunds
  by_cases hempty : funds = []
  · have hnone : ∀ tx : Transaction, tx.isAmong [] fiscalYear kinds = false := fun tx => Bool.and_false _
    rw [hempty, if_pos List.isEmpty_nil]
    refine gives_pure ?_
    simp only [hnone, List.filter_false]
  · have hplain : ∀ q ∈ fundQueries funds fiscalYear kinds, ∀ clause ∈ q.clauses, Query.PlainClause clause :=
      fun _ => fundQueries_plain
    rw [if_neg (by simpa using hempty)]
    refine (searches_give hdirectory hserver hplain state).bind fun pages _ hmem => gives_pure ?_
    have hstored : ∀ tx ∈ pages.flatten, tx ∈ t := fun tx htx => ((hmem tx).mp htx).1
    refine Table.filter_eq_filter fun tx => ?_
    rw [Table.mem_ofList hstored, hmem, and_assoc, fundQueries_selects_iff]
    rfl

/-- The transactions of some funds are one list, in the order of their identifiers, whether a server that answers
searches is asked for them or the store that holds what the server holds. -/
theorem transactionsByFunds_eq_store {server : RestServer} {σ : Type} {answer : RestRequest → StateM σ RestOutcome}
    {s : Store} (hdirectory : server.address.directory.isSome = true)
    (hserver : AnswersSearches answer s.transactions.records) (funds : List FundId) (fiscalYear : FiscalYearId)
    (kinds : List TransactionKind) (state : σ) :
    ∃ txs,
      ((server.answer (.transactionsByFunds funds fiscalYear kinds)).run.answeredBy answer state).1 = .ok txs ∧
        (s.answer (.transactionsByFunds funds fiscalYear kinds)).1 = .ok txs ∧
        txs.Pairwise fun t u => t.id < u.id := by
  have hgives : Gives answer (server.transactionsByFunds funds fiscalYear kinds) state _ :=
    transactionsByFunds_gives hdirectory hserver state
  obtain ⟨txs, state', hcall, htxs⟩ := hgives
  refine ⟨txs, congrArg Prod.fst hcall, ?_, ?_⟩
  · rw [htxs]
    rfl
  · rw [htxs]
    exact s.transactions.ascending.filter _

end RestServer

/-! ## A server with two transactions -/

/-- The value of some characters. -/
def Json.ofChars? (cs : List Char) : Option Json := do
  let (value, rest) ← Json.value? (2 * cs.length + 2) 127 cs
  if (Json.skipBlank rest).isEmpty then some value else none

theorem Json.parse?_ofList (cs : List Char) : Json.parse? (String.ofList cs) = Json.ofChars? cs := by
  unfold Json.parse?
  rw [String.toList_ofList]
  rfl

/-- The characters of a record whose fields are all texts. -/
def Json.flat : Json → List Char
  | .object members =>
    '\x7b' :: [','].intercalate (members.filterMap fun m => m.2.string?.map fun value =>
      '"' :: m.1.toList ++ '"' :: ':' :: '"' :: value.toList ++ ['"']) ++ ['\x7d']
  | _ => []

namespace RestServer

theorem records_of_read {α : Type} [JsonForm α] {collection : Collection} {response : RestResponse} {as : List α}
    (h : (response.json?.bind fun page => (page.field? collection.key).bind JsonForm.decode?) = some as) :
    records collection response = .ok as := by
  obtain ⟨page, hpage, h⟩ := Option.bind_eq_some_iff.mp h
  obtain ⟨list, hlist, has⟩ := Option.bind_eq_some_iff.mp h
  unfold records
  simp only [hpage, hlist, has]

/-- The characters of an answer with some transactions. -/
def page (txs : List Transaction) : List Char :=
  "\x7b\"transactions\":[".toList ++ [','].intercalate (txs.map fun tx => (encode tx).flat) ++ "]\x7d".toList

/-- A server that answers every request with the transactions its query selects, the last one first. -/
def lastFirst (stored : List Transaction) (r : RestRequest) : StateM Unit RestOutcome :=
  pure (.ok (match r.query with
    | .ok q => ⟨200, String.ofList (page (q.filter stored).reverse)⟩
    | .error _ => ⟨400, ""⟩))

/-- Ten and a half dollars that come back to the fund they leave. -/
def transferWithin : Transaction :=
  { Transaction.create 23 .transfer 10.50 .usd 9 ⟨90, 0⟩ with fromFund := some 1, toFund := some 1 }

theorem answersSearches_lastFirst :
    AnswersSearches (lastFirst [Store.transferToJournals, transferWithin]) [Store.transferToJournals, transferWithin] := by
  have hread : ∀ txs ∈ [transferWithin, Store.transferToJournals].sublists,
      ((Json.ofChars? (page txs)).bind fun page => (page.field? Collection.transactions.key).bind JsonForm.decode?) =
        some txs := by decide +kernel
  intro asked q state hquery
  have hfound : (q.filter [Store.transferToJournals, transferWithin]).reverse ∈
      [transferWithin, Store.transferToJournals].sublists := by
    unfold Query.filter
    rw [← List.filter_reverse]
    exact List.mem_sublists.mpr List.filter_sublist
  refine ⟨⟨200, String.ofList (page (q.filter [Store.transferToJournals, transferWithin]).reverse)⟩, _, ?_, rfl,
    records_of_read ?_, List.reverse_perm _⟩
  · unfold lastFirst
    rw [hquery]
    rfl
  · rw [← hread _ hfound]
    exact congrArg (Option.bind · _) (Json.parse?_ofList _)

/-- The searches for both sides of the first fund find the second transaction twice. -/
theorem transactionsByFunds_eq_store_twoTransfers :
    let server : RestServer := ⟨⟨"http", none, "localhost", some 9130, some "/"⟩, none⟩
    let stored := [Store.transferToJournals, transferWithin]
    let s : Store := { Store.twoFunds with transactions := .ofList stored }
    server.address.directory.isSome = true ∧ AnswersSearches (lastFirst stored) s.transactions.records ∧
      ∃ txs,
        ((server.answer (.transactionsByFunds [1] 9 [])).run.answeredBy (lastFirst stored) ()).1 = .ok txs ∧
          (s.answer (.transactionsByFunds [1] 9 [])).1 = .ok txs ∧ txs.Pairwise fun t u => t.id < u.id := by
  intro server stored s
  have hserver : AnswersSearches (lastFirst stored) s.transactions.records := answersSearches_lastFirst
  exact ⟨rfl, hserver, transactionsByFunds_eq_store rfl hserver [1] 9 [] ()⟩

end RestServer

end FundLedger
