import Amy.Base.Runs
import Amy.Base.Pipeline
import Amy.Transaction
import Amy.Drain
import Amy.HasMore
import Amy.Reader
import Amy.Mysql.Ordered
import Amy.Mariadb.Refine
import Amy.Mariadb.Reentry
import Amy.Mariadb.Strings
import Amy.Cancel
import Amy.Execute
import Amy.Guard
import Amy.Incoming
import Amy.Reset
import Amy.Deferral
import Amy.Effects
import Amy.Changes
import Amy.Ownership
import Amy.Sessions
import Amy.Destroyed
import Amy.LibInit
import Amy.Credentials
import Amy.Mariadb.Prepared
import Amy.Flags
import Amy.Mysql.Delivery
import Amy.Mysql.Shared
import Amy.Mysql.SharedOrder
import Amy.Mysql.Shutdown
import Amy.Mysql.Clients
import Amy.Mysql.Crowd
import Amy.Mariadb.Shared
import Amy.Mariadb.Clients
import Amy.Mariadb.Crowd
import Amy.MultiQuery
import Amy.Mariadb.Events
import Amy.Mariadb.Sockets
import Amy.Reading
import Amy.FieldBytes
import Amy.Materialise
import Amy.Mariadb.Suspended
import Amy.FailedFetch
import Amy.Sharing
import Amy.Nesting
import Amy.Numbers
import Amy.Iterators
import Amy.Messages
import Amy.Overflow
