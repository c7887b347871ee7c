namespace BuildWatch

structure SignalBoard where
  signals : List Bool := [false]
  handles : List Nat := [0]
  waiters : List Nat := []
  deriving DecidableEq, Repr

namespace SignalBoard

def signalOf (board : SignalBoard) (handle : Nat) : Nat :=
  board.handles[handle]?.getD 0

def isSet (board : SignalBoard) (signal : Nat) : Bool :=
  board.signals[signal]?.getD false

def create (board : SignalBoard) : SignalBoard :=
  { board with
    signals := board.signals ++ [false]
    handles := board.handles ++ [board.signals.length] }

def share (board : SignalBoard) (handle : Nat) : SignalBoard :=
  { board with handles := board.handles ++ [board.signalOf handle] }

def cancel (board : SignalBoard) (handle : Nat) : SignalBoard :=
  { board with signals := board.signals.set (board.signalOf handle) true }

def wait (board : SignalBoard) (handle : Nat) : SignalBoard :=
  { board with waiters := board.waiters ++ [board.signalOf handle] }

def cancelled (board : SignalBoard) : List Bool :=
  board.handles.map board.isSet

def woken (board : SignalBoard) : List Bool :=
  board.waiters.map board.isSet

end SignalBoard

end BuildWatch
