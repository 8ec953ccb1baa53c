import ConfigAudit.Http.Transfer
import ConfigAudit.Settings.Loading
import ConfigAudit.Proofs.Audit.Crossing
import ConfigAudit.Proofs.Audit.Distinct
import ConfigAudit.Proofs.Audit.Joined
import ConfigAudit.Proofs.Audit.Lenient
import ConfigAudit.Proofs.Audit.Rating
import ConfigAudit.Proofs.Audit.Strict
import ConfigAudit.Proofs.Check.Accounted
import ConfigAudit.Proofs.Check.Protection
import ConfigAudit.Proofs.Check.Spacing
import ConfigAudit.Proofs.Check.Ssh
import ConfigAudit.Proofs.Check.Telnet
import ConfigAudit.Proofs.Check.VtyPassword
import ConfigAudit.Proofs.Device.Plausibility
import ConfigAudit.Proofs.FileSize
import ConfigAudit.Proofs.Http.Access
import ConfigAudit.Proofs.Http.Concealment
import ConfigAudit.Proofs.Http.Layers
import ConfigAudit.Proofs.Json.Faithful
import ConfigAudit.Proofs.Logging
import ConfigAudit.Proofs.Password.Grading
import ConfigAudit.Proofs.Password.Recased
import ConfigAudit.Proofs.Service.Agreement
import ConfigAudit.Proofs.Service.Cache
import ConfigAudit.Proofs.Service.Failing
import ConfigAudit.Proofs.Service.Uploads
import ConfigAudit.Proofs.Settings.Origins
