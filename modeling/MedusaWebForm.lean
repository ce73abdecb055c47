import MedusaWebForm.Libc
import MedusaWebForm.ModuleData
import MedusaWebForm.Status
import MedusaWebForm.Header
import MedusaWebForm.Cookies
import MedusaWebForm.UrlEncode
import MedusaWebForm.Request
import MedusaWebForm.Initialize
import MedusaWebForm.TryLogin
import MedusaWebForm.Run
import MedusaWebForm.Connections
import MedusaWebForm.Rounds
import MedusaWebForm.Go
import MedusaWebForm.CookieJar
import MedusaWebForm.Verdicts
import MedusaWebForm.Configuration
import MedusaWebForm.Attempts
import MedusaWebForm.Redirects
import MedusaWebForm.Returns
import MedusaWebForm.Parameters
import MedusaWebForm.Retries
import MedusaWebForm.Faults
import MedusaWebForm.Tester
import MedusaWebForm.RequestLine
