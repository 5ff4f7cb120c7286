import HeaderAudit.Demo.Site
import HeaderAudit.Web.Client
/-!
A network for trying scans without reaching a real one: fixed answers by address (a response or a
failure text) and, behind every other address, the demo site when there is one.
-/
namespace HeaderAudit.Demo

/-- A network of fixed answers and the demo site, with the requests carried so far. -/
structure Network where
  answers : List (String × Except String WireResponse)
  site : Option Site
  carried : Array WireRequest

namespace Network

def make (answers : List (String × Except String WireResponse)) (site : Option Site) : Network :=
  ⟨answers, site, #[]⟩

/-- Carries a request: the fixed answer of its address, else the site's reply; with neither,
the request fails. -/
def transport : Transport Network :=
  ⟨fun req net =>
    let key := req.url.render
    let net := { net with carried := net.carried.push req }
    match net.answers.find? (·.1 == key) with
    | some (_, answer) => (answer, net)
    | none =>
      match net.site with
      | some site =>
        let (reply, site) := site.handle ⟨req.method, req.url, req.headers, req.body⟩
        (.ok ⟨"HTTP/1.1", reply.status, statusLine reply.status, reply.headers,
          Bytes.ofString reply.body⟩,
          { net with site := some site })
      | none => (.error ("no page for " ++ key), net)⟩

end Network

end HeaderAudit.Demo
