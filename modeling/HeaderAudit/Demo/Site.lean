import HeaderAudit.Demo.Pages
import HeaderAudit.Web.Handler
import HeaderAudit.Address.Canonical
/-!
The demo shop as a site: every page answers under its current profile, and control endpoints show
and switch the profiles.
-/
namespace HeaderAudit.Demo

/-- The demo site: where it listens, the profile it started with, and each page's profile. -/
structure Site where
  host : String
  port : Int
  initial : String
  current : List (String × String)
  deriving Repr, Inhabited

def knownProfile (name : String) : Bool := profiles.contains name

namespace Site

def make (host : String) (port : Int) (initial : String) : Site :=
  let initial := if knownProfile initial then initial else "insecure"
  ⟨host, port, initial, allPages.map (·.path, initial)⟩

def address (s : Site) : String := Address.joinHostPort s.host (toString s.port)

def profileOf (s : Site) (path : String) : String :=
  ((s.current.find? (·.1 == path)).map (·.2)).getD ""

def infos (s : Site) : List (Page × String) :=
  (allPages.mergeSort fun a b => decide (a.path ≤ b.path)).map fun p => (p, s.profileOf p.path)

def infosJson (s : Site) : Json :=
  .arr ((s.infos).map fun (p, cur) => .obj [("path", .str p.path), ("description", .str p.description),
    ("current_profile", .str cur), ("profiles", Json.strs profiles)])

end Site

def templateText (s : String) : String :=
  String.join (s.toList.map fun c =>
    if c = '<' then "&lt;" else if c = '>' then "&gt;" else if c = '&' then "&amp;"
    else if c = '\'' then "&#39;" else if c = '"' then "&#34;" else if c = '+' then "&#43;"
    else if c = '\x00' then "�" else String.singleton c)

/-- Text escaped for a string inside script: quotes, backslashes, slashes and the characters
that could end the script are written as escapes. -/
def scriptString (s : String) : String :=
  String.join (s.toList.map fun c =>
    if c = '/' then "\\/" else if c = '\\' then "\\\\" else if c = '\'' then "\\x27"
    else if c = '"' then "\\x22" else if c = '<' then "\\x3c" else if c = '>' then "\\x3e"
    else if c = '&' then "\\x26" else if c = '\n' then "\\n" else if c = '\r' then "\\r"
    else String.singleton c)

def panelHead : String :=
  "<!DOCTYPE html>\n<html>\n<head>\n    <title>Demo Server Control Panel</title>\n    <style>\n" ++
  "        body \x7b font-family: system-ui, sans-serif; max-width: 900px; margin: 0 auto; padding: 20px; \x7d\n" ++
  "        .page-card \x7b border: 1px solid #ddd; border-radius: 6px; padding: 12px 16px; margin: 12px 0; \x7d\n" ++
  "        .current \x7b font-weight: bold; color: #28a745; \x7d\n" ++
  "        button.active \x7b background: #007bff; color: white; \x7d\n" ++
  "    </style>\n</head>\n<body>\n    <h1>Demo Server Control Panel</h1>\n" ++
  "    <p>Switch header profiles, then rescan the pages to compare results.</p>\n    <p>\n" ++
  "        <button onclick=\"setAll('insecure')\">All insecure</button>\n" ++
  "        <button onclick=\"setAll('partial')\">All partial</button>\n" ++
  "        <button onclick=\"setAll('secure')\">All secure</button>\n    </p>\n    "

def panelTail : String :=
  "\n    <script>\n        function post(url, body) \x7b\n            return fetch(url, \x7b\n" ++
  "                method: 'POST',\n" ++
  "                headers: \x7b'Content-Type': 'application/x-www-form-urlencoded'\x7d,\n" ++
  "                body: body\n            \x7d).then(function () \x7b location.reload(); \x7d);\n        \x7d\n" ++
  "        function setProfile(path, profile) \x7b\n" ++
  "            post('/demo/set-profile', 'path=' + encodeURIComponent(path) + '&profile=' + profile);\n" ++
  "        \x7d\n        function setAll(profile) \x7b\n            post('/demo/set-all', 'profile=' + profile);\n" ++
  "        \x7d\n    </script>\n</body>\n</html>"

def panelCard (p : Page) (cur : String) : String :=
  let path := templateText p.path
  let buttons := String.join (profiles.map fun name =>
    "\n            <button class=\"" ++ (if name = cur then "active" else "") ++ "\"\n" ++
    "                    onclick=\"setProfile('" ++ templateText (scriptString p.path) ++ "', '" ++
    templateText (scriptString name) ++ "')\">" ++ templateText name ++ "</button>\n            ")
  "\n    \n    <div class=\"page-card\">\n        <a href=\"" ++ path ++ "\" target=\"_blank\">" ++ path ++
  "</a>\n        <span class=\"current\">" ++ templateText cur ++ "</span>\n        <div>" ++
  templateText p.description ++ "</div>\n        <div>\n            " ++ buttons ++
  "\n        </div>\n    </div>\n    "

def Site.panel (s : Site) : String :=
  panelHead ++ String.join (s.infos.map fun (p, cur) => panelCard p cur) ++ panelTail

def jsonReply (headers : HeaderMap) (status : Int) (j : Json) : Reply :=
  ⟨status, headers.set "Content-Type" "application/json", j.render ++ "\n"⟩

/-- The routes of the site. -/
inductive Route where
  | page (path : String)
  | control
  | setProfile
  | listProfiles
  | setAll
  | static
  deriving Repr, BEq, Inhabited

def exactRoutes : List (String × Route) :=
  (allPages.filter (·.path != "/")).map (fun p => (p.path, Route.page p.path)) ++
  [("/demo/control", .control), ("/demo/set-profile", .setProfile), ("/demo/profiles", .listProfiles),
   ("/demo/set-all", .setAll)]

def pathSegments (p : String) : List String :=
  ((Text.split p "/").drop 1).map fun seg =>
    match Bytes.unescape .path (Bytes.ofString seg) with
    | .ok bs => Bytes.toStringLossy bs
    | .error _ => seg

/-- The route of a clean encoded path, and whether it matches the path exactly rather than as
a directory. -/
def matchRoute (p : String) : Route × Bool :=
  let segs := pathSegments p
  match exactRoutes.find? fun (r, _) => pathSegments r = segs with
  | some (_, route) => (route, true)
  | none =>
    match segs with
    | "static" :: rest => (.static, rest = [""])
    | _ => (.page "/", segs = [""])

/-- A path made clean for routing: rooted, without `.`, `..` or repeated slashes, keeping a
trailing slash. -/
def cleanRoutePath (p : String) : String :=
  if p = "" then "/" else
  let p := if p.startsWith "/" then p else "/" ++ p
  let np := Bytes.toStringLossy (Bytes.cleanPath (Bytes.ofString p))
  if p.endsWith "/" ∧ np ≠ "/" then np ++ "/" else np

def Site.serve (s : Site) (req : Incoming) (route : Route) : Reply × Site :=
  let path := Bytes.toStringLossy req.url.path
  match route with
  | .page p =>
    if path ≠ p then (Reply.notFound HeaderMap.empty, s)
    else
      let page := (allPages.find? (·.path == p)).getD default
      let prof := page.answer (s.profileOf p)
      let h := (prof.fields.getD []).foldl (fun h f => h.add f.name f.value) HeaderMap.empty
      let h := (prof.cookies.getD []).foldl (fun h c => h.add "Set-Cookie" c) h
      let origin := (req.headers.get? "Origin").getD ""
      let h := if prof.reflectOrigin ∧ origin ≠ "" then h.set "Access-Control-Allow-Origin" origin else h
      let h := if prof.contentType ≠ "" then h.set "Content-Type" prof.contentType else h
      (⟨if prof.status = 0 then 200 else prof.status, h, prof.body⟩, s)
  | .static =>
    let h := (HeaderMap.empty.set "Content-Type" "application/javascript").set "Cache-Control"
      "public, max-age=86400"
    (⟨200, h, "// Demo static file: " ++ path ++ "\n"⟩, s)
  | .control => (⟨200, HeaderMap.empty.set "Content-Type" "text/html; charset=utf-8", s.panel⟩, s)
  | .listProfiles => (jsonReply HeaderMap.empty 200 s.infosJson, s)
  | .setProfile =>
    if req.method ≠ "POST" then (Reply.error HeaderMap.empty "Method not allowed" 405, s)
    else
      let p := req.formValue "path"
      let profile := req.formValue "profile"
      if !knownProfile profile then (Reply.error HeaderMap.empty "Unknown profile" 400, s)
      else if !(s.current.any (·.1 == p)) then (Reply.error HeaderMap.empty "Unknown page" 404, s)
      else
        let s := { s with current := s.current.map fun (q, c) => if q = p then (q, profile) else (q, c) }
        (jsonReply HeaderMap.empty 200 (.obj [("path", .str p), ("profile", .str profile),
          ("success", .bool true)]), s)
  | .setAll =>
    if req.method ≠ "POST" then (Reply.error HeaderMap.empty "Method not allowed" 405, s)
    else
      let profile := req.formValue "profile"
      if !knownProfile profile then (Reply.error HeaderMap.empty "Unknown profile" 400, s)
      else
        let s := { s with current := s.current.map fun (q, _) => (q, profile) }
        (jsonReply HeaderMap.empty 200 (.obj [("profile", .str profile), ("success", .bool true)]), s)

def Site.handle (s : Site) (req : Incoming) : Reply × Site :=
  let escaped := req.url.escapedPath
  let path := cleanRoutePath escaped
  let (route, exact) := matchRoute path
  let slashed := path ++ "/"
  let toDirectory := !exact ∧ !path.endsWith "/" ∧ (matchRoute slashed).2
  if toDirectory then
    let clean := cleanRoutePath (Bytes.toStringLossy req.url.path) ++ "/"
    let target := { Address.empty with path := Bytes.ofString clean, rawQuery := req.url.rawQuery }
    (Reply.redirect req HeaderMap.empty target.render 301, s)
  else if path ≠ escaped then
    let target := { Address.empty with path := Bytes.ofString path, rawQuery := req.url.rawQuery }
    (Reply.redirect req HeaderMap.empty target.render 301, s)
  else s.serve req route

end HeaderAudit.Demo
