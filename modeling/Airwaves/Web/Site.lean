import Airwaves.Web.Pages
import Airwaves.Web.Relay
import Airwaves.Live.Poll
/-!
# The site

Every address the service answers over HTTP: the pages with a behaviour of their own
(the start of a client, error reports, playlist files, the web-app manifest, the long
poll and the relay reports), then every endpoint of the API as a plain JSON answer. A
page of its own takes precedence over the endpoint at the same address.
-/
namespace Airwaves.Web

open Api

/-- The pages with a behaviour of their own. -/
def ownPages : List Route :=
  [bootstrap, bootstrapDj, errorReport, playlistRoute, manifestRoute, Live.Poll.route] ++ relayRoutes

/-- Every route of the site, pages of their own first. -/
def routes : List Route := ownPages ++ directory.map fun e => { endpoint := e }

/-- The route at an address pattern. -/
def routeAt? (pattern : String) : Option Route := routes.find? (·.pattern == pattern)

end Airwaves.Web
