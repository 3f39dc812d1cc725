import ShortlinkCatalog.Decimal.Binary64
import ShortlinkCatalog.Text.Basic

/-!
# Settings

The settings of the service, with the values that hold where none is configured.
-/

namespace ShortlinkCatalog

inductive Deployment
  | production
  | staging
  | development
deriving DecidableEq, Repr

/-- How long to wait for a reply, in seconds. -/
inductive Timeout
  | unlimited
  | whole (seconds : Int)
  | real (seconds : Binary64)
deriving DecidableEq, Repr

structure Settings where
  deployment : Deployment
  logLevel : Text
  databaseUrl : Text
  timemapUrl : Text
  scrapeUrl : Text
  downloadUrl : Text
  timemapLimit : Int
  httpTimeout : Timeout
  userAgent : Text
deriving DecidableEq, Repr

namespace Settings

/-- Two minutes. -/
def defaultTimeout : Timeout := .real (.ofDecimal false 120 0)

def default : Settings where
  deployment := .development
  logLevel := "INFO"
  databaseUrl := "sqlite+aiosqlite:///./urlhero.db"
  timemapUrl := "https://web.archive.org/cdx/search/cdx"
  scrapeUrl := "https://archive.org/services/search/v1/scrape"
  downloadUrl := "https://archive.org/download"
  timemapLimit := 100000
  httpTimeout := defaultTimeout
  userAgent := "urlhero/1.0 (+https://github.com/andrewarchi/urlhero)"

end Settings

end ShortlinkCatalog
