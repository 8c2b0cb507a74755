import CephMount.Ron.Written
import CephMount.Session
import CephMount.Version
import CephMount.Proofs.Life
import CephMount.Proofs.Mount.Command
import CephMount.Proofs.Mount.Requests
import CephMount.Proofs.Session.Endings
import CephMount.Proofs.Session.Safety
import CephMount.Proofs.Mount.History
import CephMount.Proofs.Mount.Preparation
import CephMount.Proofs.Mount.Reports
import CephMount.Proofs.InMemory.Directories
import CephMount.Proofs.Session.Directories
import CephMount.Proofs.Session.Flags
import CephMount.Proofs.Ron.Strings
import CephMount.Proofs.Ron.Values
import CephMount.Proofs.Ron.RoundTrip
import CephMount.Proofs.InMemory.Buffers
import CephMount.Proofs.Session.Buffers
import CephMount.Proofs.FileTree
import CephMount.Proofs.InMemory.Refinement
import CephMount.Proofs.InMemory.Isolation
import CephMount.Proofs.Session.Isolation
import CephMount.Proofs.Mount.Course
import CephMount.Proofs.Mount.Rejection
import CephMount.Proofs.InMemory.Failures
import CephMount.Proofs.Session.Runs
import CephMount.Proofs.InMemory.Commands
import CephMount.Proofs.Session.Commands
import CephMount.Proofs.Session.Failures
import CephMount.Proofs.InMemory.Options
import CephMount.Proofs.Session.Options
import CephMount.Proofs.Mount.Lookups
import CephMount.Proofs.Sources
import CephMount.Proofs.Ron.Filler
import CephMount.Proofs.Ron.Layout
import CephMount.Proofs.InMemory.Injection
import CephMount.Proofs.Session.Injection
import CephMount.Proofs.Arguments
import CephMount.Proofs.Resolution
import CephMount.Proofs.Session.Paths
import CephMount.Proofs.Session.Undoing
import CephMount.Proofs.InMemory.Histories
import CephMount.Proofs.InMemory.Attributes
import CephMount.Proofs.Session.Attributes
import CephMount.Proofs.Decoding
import CephMount.Proofs.Mount.ReplyText
import CephMount.Proofs.FileNames
import CephMount.Proofs.Session.ConfigFiles
import CephMount.Proofs.Mount.FailureReports
import CephMount.Proofs.Mount.Disclosure
import CephMount.Proofs.Mount.Transitions
import CephMount.Proofs.ErrorCode
import CephMount.Proofs.Mount.Surfacing
