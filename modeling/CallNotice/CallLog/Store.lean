import CallNotice.CallLog.Journal

namespace CallNotice

inductive CallLogStore
  | memory (rows : Rows)
  | journal (path : String)
  | unavailable
  deriving DecidableEq

namespace CallLogStore

def rows (store : CallLogStore) (files : Files) : Rows :=
  match store with
  | memory rows => rows
  | journal path => CallLogJournal.rows path files
  | unavailable => []

def update (filter : CallLogFilter) (values : CallLogUpdate) :
    CallLogStore → Act (Nat × CallLogStore)
  | memory rows => return (rows.count filter, memory (rows.update filter values))
  | journal path => return (← CallLogJournal.update path filter values, journal path)
  | unavailable => throw .noCallLogProvider

def updateEnds (s : Scene) : CallLogStore → Bool
  | journal path => CallLogJournal.updateEnds path s
  | _ => true

def query (filter : CallLogFilter) : CallLogStore → Act Rows
  | memory rows => return rows.query filter
  | journal path => return (← Act.readFiles (CallLogJournal.rows path)).query filter
  | unavailable => throw .noCallLogProvider

def insert (entry : CallLogEntry) : CallLogStore → Act (UInt64 × CallLogStore)
  | memory rows => return (rows.nextId, memory (rows.insert entry))
  | journal path => return (← CallLogJournal.insert path entry, journal path)
  | unavailable => throw .noCallLogProvider

end CallLogStore

end CallNotice
