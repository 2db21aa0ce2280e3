import CallNotice.CallLog.Entry

namespace CallNotice

abbrev Rows := List CallLogEntry

namespace Rows

def count (filter : CallLogFilter) (rows : Rows) : Nat := rows.countP filter.accepts

def update (filter : CallLogFilter) (values : CallLogUpdate) (rows : Rows) : Rows :=
  rows.map fun e => if filter.accepts e then values.apply e else e

def query (filter : CallLogFilter) (rows : Rows) : Rows :=
  (rows.filter filter.accepts).mergeSort fun a b => b.date.notAfter a.date

def lastId (rows : Rows) : UInt64 := rows.foldl (fun last e => max last e.id) 0

def nextId (rows : Rows) : UInt64 := rows.lastId + 1

def insert (entry : CallLogEntry) (rows : Rows) : Rows := rows ++ [{ entry with id := rows.nextId }]

end Rows

end CallNotice
