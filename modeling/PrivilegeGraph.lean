import PrivilegeGraph.Log
import PrivilegeGraph.Project
import PrivilegeGraph.Proofs.Administration.Coverage
import PrivilegeGraph.Proofs.Administration.Decision
import PrivilegeGraph.Proofs.Administration.Determination
import PrivilegeGraph.Proofs.Administration.Grantability
import PrivilegeGraph.Proofs.Administration.Injection
import PrivilegeGraph.Proofs.Administration.Mirroring
import PrivilegeGraph.Proofs.Connector.Collapsing
import PrivilegeGraph.Proofs.Connector.Disclosure
import PrivilegeGraph.Proofs.Connector.LeftOut
import PrivilegeGraph.Proofs.Connector.Legacy
import PrivilegeGraph.Proofs.Connector.Session
import PrivilegeGraph.Proofs.Connector.Synced
import PrivilegeGraph.Proofs.Connector.Targets
import PrivilegeGraph.Proofs.Connector.TopLevel
import PrivilegeGraph.Proofs.Connector.Tour
import PrivilegeGraph.Proofs.Connector.Tree
import PrivilegeGraph.Proofs.Entitlement.Vocabulary
import PrivilegeGraph.Proofs.Generation
import PrivilegeGraph.Proofs.Identity.Bijection
import PrivilegeGraph.Proofs.Password
import PrivilegeGraph.Proofs.Reconciliation.Accounting
import PrivilegeGraph.Proofs.Reconciliation.Canonicity
import PrivilegeGraph.Proofs.Reconciliation.Distinctness
import PrivilegeGraph.Proofs.Reconciliation.Lists
import PrivilegeGraph.Proofs.Reconciliation.Offered
import PrivilegeGraph.Proofs.Reconciliation.Revocable
import PrivilegeGraph.Proofs.Reconciliation.Script
import PrivilegeGraph.Proofs.Settings
import PrivilegeGraph.Proofs.Sql.Quoting
import PrivilegeGraph.Sql.Client
