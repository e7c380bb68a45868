import Archiver.Css.Parse
import Archiver.Fetch.Site
import Archiver.Html.Parse

namespace Archiver

/-- A page that only a valid session gets, and what it must show. -/
structure SessionProbe where
  url : String
  marker : Selectors

def SessionProbe.of? (url marker : String) : Option SessionProbe :=
  (Selectors.parse? marker.toList).map fun marker => ⟨url, marker⟩

/-- True if the reply is a page with the marker on it. -/
def SessionProbe.accepts (probe : SessionProbe) (reply : Reply) : Bool :=
  match reply.body? with
  | none => false
  | some body => !((parseDocument body.toList).select probe.marker.matches).isEmpty

def SessionProbe.check (probe : SessionProbe) (site : Site) (c : Client) : Client × Bool :=
  let (c, reply) := c.fetch site probe.url
  (c, probe.accepts reply)

end Archiver
