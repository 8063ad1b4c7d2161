import Mathlib.Init

/-!
# Result codes

The `SQLITE_` result codes that the port and the pager pass around, under the names of
`sqlite3.h`.
-/

namespace VxSqlite

/-- The result codes of `sqlite3.h` that the modelled functions return. -/
inductive ResultCode where
  | ok
  | error
  | busy
  | nomem
  | ioerr
  | corrupt
  | notfound
  | full
  | cantopen
  | done
  | ioerrRead
  | ioerrShortRead
  | ioerrWrite
  | ioerrTruncate
  | ioerrFstat
  | ioerrUnlock
  | ioerrDelete
  | ioerrDeleteNoent
  | readonlyRollback
  deriving DecidableEq, Repr

namespace ResultCode

/-- The number behind a code. -/
def code : ResultCode → Nat
  | ok => 0
  | error => 1
  | busy => 5
  | nomem => 7
  | ioerr => 10
  | corrupt => 11
  | notfound => 12
  | full => 13
  | cantopen => 14
  | done => 101
  | ioerrRead => 10 ||| (1 <<< 8)
  | ioerrShortRead => 10 ||| (2 <<< 8)
  | ioerrWrite => 10 ||| (3 <<< 8)
  | ioerrTruncate => 10 ||| (6 <<< 8)
  | ioerrFstat => 10 ||| (7 <<< 8)
  | ioerrUnlock => 10 ||| (8 <<< 8)
  | ioerrDelete => 10 ||| (10 <<< 8)
  | ioerrDeleteNoent => 10 ||| (23 <<< 8)
  | readonlyRollback => 8 ||| (3 <<< 8)

/-- `(rc & 0xff) == SQLITE_IOERR`: the code is `SQLITE_IOERR` or one of its sub-codes. -/
def IsIoerr (rc : ResultCode) : Prop := rc.code % 256 = 10

instance (rc : ResultCode) : Decidable rc.IsIoerr := inferInstanceAs (Decidable (_ = _))

end ResultCode

end VxSqlite
