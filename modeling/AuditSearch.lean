import AuditSearch.Condition.Clause
import AuditSearch.Condition.Meaning
import AuditSearch.Search.Compiler
import AuditSearch.Json.Reader
import AuditSearch.Json.Writer
import AuditSearch.Settings.Folder
import AuditSearch.EventLog.Search
import AuditSearch.Search.Description
import AuditSearch.Sql.Document.Basic
import AuditSearch.Sql.Document.Binary
import AuditSearch.Sql.Document.Path
import AuditSearch.Sql.Document.Reader
import AuditSearch.Sql.Function.Document
import AuditSearch.Proofs.Catalog.Construction
import AuditSearch.Proofs.Condition.Equivalence
import AuditSearch.Proofs.Condition.Rendering
import AuditSearch.Proofs.EventLog.Containing
import AuditSearch.Proofs.EventLog.Inline
import AuditSearch.Proofs.EventLog.Negation
import AuditSearch.Proofs.EventLog.Roles
import AuditSearch.Proofs.EventLog.Verbatim
import AuditSearch.Proofs.Query.Spelling
import AuditSearch.Proofs.Search.Days
import AuditSearch.Proofs.Search.Merging
import AuditSearch.Proofs.Search.Normal
import AuditSearch.Proofs.Search.Params
import AuditSearch.Proofs.Search.Policy
import AuditSearch.Proofs.Search.Renaming
import AuditSearch.Proofs.Settings.Layers
