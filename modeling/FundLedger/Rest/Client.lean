import FundLedger.Dialogue
import FundLedger.Rest.Exchange
import FundLedger.Storage.Store
/-!
# A storage behind a server

Every request to the storage becomes a few exchanges with a server.  A search for transactions by funds has no query
of its own: for one fund there is a search for each side, for several funds one search over the fiscal year, and what
was not asked for is dropped.

* `RestCall`: exchanges that end with a value or an error of the storage.
* `RestServer.answer`: the exchanges for a request.
-/

namespace FundLedger

/-- Exchanges with a server that end with a value or an error. -/
abbrev RestCall (α : Type) : Type := ExceptT StoreError (Dialogue RestRequest fun _ => RestOutcome) α

/-- A server that holds the collections of a storage. -/
structure RestServer where
  address : Address
  /-- On whose behalf requests are made. -/
  tenant : Option String
deriving DecidableEq

namespace RestServer

variable (server : RestServer) {α : Type} [JsonForm α]

/-- The error of an answer that holds no value. -/
def unreadable : StoreError := .transport "error decoding response body"

/-- The error that a status tells; `id` names the record that was asked for. -/
def statusError (collection : Collection) (id url : String) (response : RestResponse) : StoreError :=
  if response.status = 404 then .notFound collection id
  else if response.status = 409 then .versionConflict collection id
  else .status response.status url response.text

/-- Sends a request; the answer is one of success. -/
def send (collection : Collection) (id : String) (request : RestRequest) : RestCall RestResponse :=
  match server.address.directory with
  | none => throw (.unavailable "invalid url: relative URL with a cannot-be-a-base base")
  | some directory => ExceptT.mk (.ask request fun
    | .error text => .done (.error (.transport text))
    | .ok response => .done (
      if response.isSuccess then .ok response
      else .error (statusError collection id (request.address server.address directory) response)))

/-- The record that an answer holds. -/
def record (response : RestResponse) : Except StoreError α :=
  match response.json?.bind JsonForm.decode? with
  | none => .error unreadable
  | some a => .ok a

/-- The records of a collection that an answer holds; none if the answer does not name them. -/
def records (collection : Collection) (response : RestResponse) : Except StoreError (List α) :=
  match response.json? with
  | none => .error unreadable
  | some page =>
    match page.field? collection.key with
    | none => .ok []
    | some list =>
      match JsonForm.decode? list with
      | none => .error (.decode collection.key)
      | some as => .ok as

/-- The path of a record. -/
def recordPath (collection : Collection) (id : String) : String := collection.path ++ "/" ++ id

/-- The request for the records of a collection that a query asks for. -/
def searchRequest (collection : Collection) (query : Query) : RestRequest :=
  { method := .get
    path := collection.path
    parameters := ("limit", "2147483647") :: (if query.isEmpty then [] else [("query", query.text)])
    body := none }

/-- Reads a record. -/
def fetch (collection : Collection) (id : String) : RestCall α := do
  record (← server.send collection id ⟨.get, recordPath collection id, [], none⟩)

/-- Reads the records that a query asks for. -/
def search (collection : Collection) (query : Query) : RestCall (List α) := do
  records collection (← server.send collection "" (searchRequest collection query))

/-- Writes a new record. -/
def post (collection : Collection) (a : α) : RestCall α := do
  record (← server.send collection "" ⟨.post, collection.path, [], some (JsonForm.encode a)⟩)

/-- Writes a record in place of a stored one. -/
def put (collection : Collection) (id : String) (a : α) : RestCall Unit :=
  discard (server.send collection id ⟨.put, recordPath collection id, [], some (JsonForm.encode a)⟩)

/-- Deletes a record. -/
def delete (collection : Collection) (id : String) : RestCall Unit :=
  discard (server.send collection id ⟨.delete, recordPath collection id, [], none⟩)

/-- The queries whose results hold all transactions of a fiscal year that touch one of some funds. -/
def fundQueries (funds : List FundId) (fiscalYear : FiscalYearId) (kinds : List TransactionKind) : List Query :=
  let ofYear :=
    match kinds with
    | [kind] => (byFiscalYear fiscalYear).whereEq "transactionType" kind.name
    | _ => byFiscalYear fiscalYear
  match funds with
  | [fund] => ["fromFundId", "toFundId"].map fun side => (Query.whereEq .all side fund.text).and ofYear
  | _ => [ofYear]

/-- The transactions of a fiscal year that touch one of some funds, by their identifiers. -/
def transactionsByFunds (funds : List FundId) (fiscalYear : FiscalYearId) (kinds : List TransactionKind) :
    RestCall (List Transaction) :=
  if funds.isEmpty then return []
  else do
    let pages ← (fundQueries funds fiscalYear kinds).mapM fun query =>
      server.search (α := Transaction) .transactions query
    return (Table.ofList pages.flatten).records.filter fun tx =>
      (kinds.isEmpty || kinds.contains tx.kind) && funds.any tx.touches

/-- The expense classes with some identifiers. -/
def getExpenseClasses (ids : List ExpenseClassId) : RestCall (List ExpenseClass) :=
  match ids with
  | [] => return []
  | _ => do
    let query :=
      match ids with
      | [id] => Query.whereEq .all "id" id.text
      | _ => .all
    let found ← server.search (α := ExpenseClass) .expenseClasses query
    return found.filter fun c => ids.contains c.id

/-- The exchanges for a request to the storage. -/
def answer : (r : StorageRequest) → RestCall r.Answer
  | .getTransaction id => server.fetch .transactions id.text
  | .transactionsByFunds funds fiscalYear kinds => server.transactionsByFunds funds fiscalYear kinds
  | .queryTransactions query => server.search .transactions query
  | .createTransaction tx => server.post .transactions tx
  | .updateTransaction tx => server.put .transactions tx.id.text tx
  | .getBudget id => server.fetch .budgets id.text
  | .queryBudgets query => server.search .budgets query
  | .updateBudget budget => do
    server.put .budgets budget.id.text budget
    server.fetch .budgets budget.id.text
  | .deleteBudget id => server.delete .budgets id.text
  | .getFund id => server.fetch .funds id.text
  | .queryGroupFundFiscalYears query => server.search .groupFundFiscalYears query
  | .getExpenseClasses ids => server.getExpenseClasses ids
  | .queryBudgetExpenseClasses query => server.search .budgetExpenseClasses query
  | .deleteBudgetExpenseClass id => server.delete .budgetExpenseClasses id.text

end RestServer

end FundLedger
