import RowQuery.DataSource

/-!
A data source without rows, which writes down what it is asked for. It can be told what to refuse,
so that it shows how errors of a store are reported.
-/

namespace RowQuery

/-- What a data source is asked for. -/
inductive Call where
  | filter (p : Predicate)
  | exclude (p : Predicate)
  | distinct
  | nothing
  | orderBy (terms : List OrderTerm)

/-- The call in text. -/
def Call.text : Call → String
  | filter p => "filter " ++ p.text
  | exclude p => "exclude " ++ p.text
  | distinct => "distinct"
  | nothing => "none"
  | orderBy terms => "order_by " ++ ",".intercalate (terms.map OrderTerm.text)

/-- A data source that writes down its calls. -/
structure CallLog where
  primaryKey : String
  /-- The error that a comparison meets, if it is refused. -/
  refuse? : Lookup → Option StoreError
  /-- The error that a sort term meets, if it is refused. -/
  refuseTerm? : OrderTerm → Option StoreError
  calls : List Call

namespace CallLog

/-- The log with one more call, unless that one is refused. -/
def record (log : CallLog) (call : Call) (refusal : Option StoreError) :
    Except StoreError CallLog :=
  match refusal with
  | some e => .error e
  | none => .ok { log with calls := log.calls ++ [call] }

/-- The error of the first comparison that is refused. -/
def refusal? (log : CallLog) (p : Predicate) : Option StoreError := p.lookups.findSome? log.refuse?

instance : DataSource CallLog where
  filter log p := log.record (.filter p) (log.refusal? p)
  exclude log p := log.record (.exclude p) (log.refusal? p)
  distinct log := { log with calls := log.calls ++ [.distinct] }
  nothing log := { log with calls := log.calls ++ [.nothing] }
  orderBy log terms := log.record (.orderBy terms) (terms.findSome? log.refuseTerm?)
  primaryKey log := log.primaryKey

end CallLog

end RowQuery
