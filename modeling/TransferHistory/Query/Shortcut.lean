import TransferHistory.Query.Clause
import TransferHistory.Query.Params

/-!
# Shortcuts

Three parameters stand for fixed conditions on transfers: the contract, either side, and the token
symbol. A shortcut that is used is reported, so that no later stage takes it for a filter.
-/

namespace TransferHistory

/-- A parameter with a fixed condition. -/
inductive Shortcut where
  | contract
  | account
  | symbol
  deriving DecidableEq, Repr

namespace Shortcut

/-- All shortcuts, in the order in which they are applied. -/
def all : List Shortcut := [.contract, .account, .symbol]

/-- The parameter of a shortcut. -/
def param : Shortcut → String
  | .contract => "smAccount"
  | .account => "canAccount"
  | .symbol => "symbol"

/-- The condition that a shortcut stands for. -/
def clause (value : String) : Shortcut → Clause
  | .contract => .term "act.account" value
  | .account => .anyOf [.term "@transfer.from" value, .term "@transfer.to" value]
  | .symbol => .term "@transfer.symbol" value

/-- A shortcut applied to a query and to the names reported so far. -/
def apply (params : Params) (state : BooleanQuery × List String) (shortcut : Shortcut) :
    BooleanQuery × List String :=
  match params.get? shortcut.param with
  | some value => (state.1.require (shortcut.clause value), state.2 ++ [shortcut.param])
  | none => state

end Shortcut

/-- The shortcuts of a request applied to a query, and the names of those that were used. -/
def BooleanQuery.requireShortcuts (params : Params) (query : BooleanQuery) :
    BooleanQuery × List String :=
  Shortcut.all.foldl (Shortcut.apply params) (query, [])

end TransferHistory
