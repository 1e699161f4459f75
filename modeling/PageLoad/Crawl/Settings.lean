import PageLoad.Crawl.Report
import PageLoad.Fetch.Client

/-!
What can be chosen for a crawl.
-/

namespace PageLoad.Crawl

structure Settings where
  workers : Nat
  timeout : Nat
  userAgent : String
  format : ReportFormat
  deriving DecidableEq, Repr

def Settings.default : Settings :=
  ⟨5, Fetch.defaultTimeout, Fetch.defaultUserAgent, .default⟩

end PageLoad.Crawl
