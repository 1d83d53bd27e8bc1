/-
  Blueprint.Session.Desk — a session with what it works on (a `WorkspaceManager` and the files around
  it).

  A desk is a session with its files and the count of ids drawn. Everything that drives a session takes
  a desk and gives the desk after it.
-/

import Blueprint.Session.Storage

namespace Blueprint

structure Desk where
  session : Session := {}
  files : Files := {}
  drawn : Nat := 0
  deriving DecidableEq, Repr

namespace Desk

def withSession (d : Desk) (s : Session) : Desk := { d with session := s }

end Desk

end Blueprint
