import Bifrostnms.Proofs.Accounting
import Bifrostnms.Proofs.ConfigurationRuns
import Bifrostnms.Proofs.Dashboard
import Bifrostnms.Proofs.DnsExchange
import Bifrostnms.Proofs.FailedUpdates
import Bifrostnms.Proofs.GroupHierarchy
import Bifrostnms.Proofs.HeadOfLine
import Bifrostnms.Proofs.History
import Bifrostnms.Proofs.HttpConfiguration
import Bifrostnms.Proofs.HttpProbe
import Bifrostnms.Proofs.HttpRequest
import Bifrostnms.Proofs.IcmpVisualization
import Bifrostnms.Proofs.Migrations
import Bifrostnms.Proofs.MonitorRequests
import Bifrostnms.Proofs.Normalization
import Bifrostnms.Proofs.QueueFull
import Bifrostnms.Proofs.QueueOrder
import Bifrostnms.Proofs.QueueRuns
import Bifrostnms.Proofs.Reconciliation
import Bifrostnms.Proofs.Reload
import Bifrostnms.Proofs.Retry
import Bifrostnms.Proofs.RetryDelay
import Bifrostnms.Proofs.Sessions
import Bifrostnms.Proofs.Signup
import Bifrostnms.Proofs.SingleUse
import Bifrostnms.Proofs.TlsProbe
import Bifrostnms.Proofs.UploadSchema
