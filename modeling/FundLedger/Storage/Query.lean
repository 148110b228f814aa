import FundLedger.Json.Printer
import FundLedger.Record.Fields
import FundLedger.Storage.Error
import FundLedger.Text.Blank
/-!
# Queries

A query asks for the records in which some fields have given values.  Its text joins the clauses `field==value` with
`AND`; a value with blanks is put in quotes.

* `Query`, `Query.whereEq`, `Query.and`: queries by their clauses.
* `Query.text`, `Query.ofText`: the text, and the query of a text.
* `Query.selects`, `Query.filter`: the records that a query asks for.
* `byBudget`, `byFiscalYear`, `budgetOfFund`, `linksOfClass`, `linksOfGroup`: the queries by identifiers.
-/

namespace FundLedger

/-- A conjunction of clauses, each a field with its value. -/
structure Query where
  clauses : List (String × String)
deriving DecidableEq

namespace Query

/-- The query for all records. -/
def all : Query := ⟨[]⟩

variable (q : Query)

/-- One more clause. -/
def whereEq (field value : String) : Query := ⟨q.clauses ++ [(field, value)]⟩

/-- The clauses of two queries. -/
def and (q' : Query) : Query := ⟨q.clauses ++ q'.clauses⟩

/-- Whether there is no clause. -/
def isEmpty : Bool := q.clauses.isEmpty

/-- The value of the first clause on a field. -/
def valueOf? (field : String) : Option String := (q.clauses.find? fun c => c.1 == field).map (·.2)

/-! ## Text -/

/-- A value as it stands in a clause. -/
def valueText (value : String) : String :=
  if value.toList.any isBlank then "\"" ++ value ++ "\"" else value

/-- A clause as text. -/
def clauseText (clause : String × String) : String := clause.1 ++ "==" ++ valueText clause.2

/-- The clauses, joined. -/
def text : String := " AND ".intercalate (q.clauses.map clauseText)

/-- The parts of a text between the joints. -/
def parts : List Char → List (List Char)
  | [] => [[]]
  | ' ' :: 'A' :: 'N' :: 'D' :: ' ' :: rest => [] :: parts rest
  | c :: rest =>
    match parts rest with
    | [] => [[c]]
    | first :: others => (c :: first) :: others

/-- What stands in front of the first `==`, and behind it. -/
def splitEquals? : List Char → Option (List Char × List Char)
  | [] => none
  | '=' :: '=' :: rest => some ([], rest)
  | c :: rest => (splitEquals? rest).map fun (front, back) => (c :: front, back)

/-- A value without a pair of quotes around it. -/
def unquoted : List Char → List Char
  | '"' :: rest => if rest.getLast? = some '"' then rest.dropLast else '"' :: rest
  | value => value

/-- Reads a clause. -/
def clauseOf? (clause : List Char) : Option (String × String) :=
  match splitEquals? clause with
  | none => none
  | some (field, value) =>
    if trim field = [] then none
    else some (String.ofList (trim field), String.ofList (unquoted (trim value)))

/-- Reads a clause; the error names one that has no field. -/
def readClause (clause : List Char) : Except StoreError (String × String) :=
  match clauseOf? clause with
  | none => .error (.invalidQuery (String.ofList clause))
  | some c => .ok c

/-- Reads a query.  A blank text asks for all records. -/
def ofText (s : String) : Except StoreError Query :=
  if trim s.toList = [] then .ok all else ((parts s.toList).mapM readClause).map Query.mk

/-! ## Selection -/

/-- Whether a field of a record has a value, compared as text.  A field that is missing or null has none. -/
def agrees (record : Json) (clause : String × String) : Bool :=
  match record.field? clause.1 with
  | some (.string actual) => actual == clause.2
  | none | some .null => false
  | some other => other.compact == clause.2

/-- Whether the query asks for a record. -/
def selects (record : Json) : Bool := q.clauses.all (agrees record)

/-- The records that the query asks for. -/
def filter {α : Type} [JsonForm α] (records : List α) : List α :=
  records.filter fun record => q.selects (JsonForm.encode record)

end Query

/-- Asks for what belongs to a budget. -/
def byBudget (budget : BudgetId) : Query := .whereEq .all "budgetId" budget.text

/-- Asks for what belongs to a fiscal year. -/
def byFiscalYear (fiscalYear : FiscalYearId) : Query := .whereEq .all "fiscalYearId" fiscalYear.text

/-- Asks for the budget of a fund in a fiscal year. -/
def budgetOfFund (fund : FundId) (fiscalYear : FiscalYearId) : Query :=
  (Query.whereEq .all "fundId" fund.text).and (byFiscalYear fiscalYear)

/-- Asks for the links between a budget and an expense class. -/
def linksOfClass (budget : BudgetId) (expenseClass : ExpenseClassId) : Query :=
  (byBudget budget).whereEq "expenseClassId" expenseClass.text

/-- Asks for the links of a group in a fiscal year. -/
def linksOfGroup (group : GroupId) (fiscalYear : FiscalYearId) : Query :=
  (Query.whereEq .all "groupId" group.text).and (byFiscalYear fiscalYear)

end FundLedger
