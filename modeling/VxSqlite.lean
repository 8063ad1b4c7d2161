import VxSqlite.Lib.Except
import VxSqlite.Lib.Run
import VxSqlite.Lib.Overlay
import VxSqlite.Lib.Buffer
import VxSqlite.Lib.Narrow
import VxSqlite.Lib.ByteStore
import VxSqlite.Lib.Drain
import VxSqlite.Lib.Calendar
import VxSqlite.Lib.Paged
import VxSqlite.Lib.Probing
import VxSqlite.Os
import VxSqlite.ResultCode
import VxSqlite.Disk
import VxSqlite.Verix.File
import VxSqlite.Verix.Vfs
import VxSqlite.Flash
import VxSqlite.Verix.Content
import VxSqlite.Verix.ByteArray
import VxSqlite.Verix.Position
import VxSqlite.Verix.Session
import VxSqlite.Verix.Lockstep
import VxSqlite.Verix.Logging
import VxSqlite.Verix.Objects
import VxSqlite.Verix.Name
import VxSqlite.Verix.TempFile
import VxSqlite.Verix.Clock
import VxSqlite.Verix.ReadBuffer
import VxSqlite.Verix.LastError
import VxSqlite.Verix.Failure
import VxSqlite.Verix.Growth
import VxSqlite.V359.File
import VxSqlite.V359.PageRead
import VxSqlite.V359.TempName
import VxSqlite.Verix.WriteLoop
import VxSqlite.Pager.Basic
import VxSqlite.Pager.Lock
import VxSqlite.Pager.Journal
import VxSqlite.Pager.Progress
import VxSqlite.Pager.ReadError
import VxSqlite.Pager.SharedLock
import VxSqlite.Pager.HotJournal
import VxSqlite.Pager.Names
import VxSqlite.Pager.Handles
import VxSqlite.Pager.FullName
import VxSqlite.Pager.Bitvec
import VxSqlite.Pager.DirtyList
import VxSqlite.Pager.JournalWrite
import VxSqlite.Pager.Writer
import VxSqlite.Pager.FileCalls
import VxSqlite.Pager.JournalFormat
import VxSqlite.Pager.Restore
import VxSqlite.Pager.EndTransaction
import VxSqlite.Pager.EndPlayback
import VxSqlite.Pager.HotRecovery
import VxSqlite.Pragma
import VxSqlite.Pager.PassedNames
import VxSqlite.Pager.Commit
