import CallChart.Options.Exchange

namespace CallChart

structure OptionsStore where
  current : Options
  defaults : Options
  deriving DecidableEq, Repr

namespace OptionsStore

def new (defaults : Options) : OptionsStore :=
  ⟨defaults, defaults⟩

def serialize (store : OptionsStore) : String :=
  store.current.text

def settle (store : OptionsStore) (result : Except Failure Options) :
    Except Failure Options × OptionsStore :=
  match result with
  | .ok next => (.ok next, { store with current := next })
  | .error e => (.error e, store)

def merge (store : OptionsStore) (payload : String) : Except Failure Options × OptionsStore :=
  store.settle (store.current.merge payload)

def change (store : OptionsStore) (pairs : List (String × String)) :
    Except Failure Options × OptionsStore :=
  store.settle ((store.current.applyOverrides pairs).map (·.1))

def reset (store : OptionsStore) (pairs : List (String × String)) :
    Except Failure Options × OptionsStore :=
  store.settle ((store.defaults.applyOverrides pairs).map (·.1))

end OptionsStore
end CallChart
