import HeaderAudit.Json.Value
/-!
The pages of the demo shop. Each page answers under one of three header profiles, from weakest to
strongest: `insecure`, `partial` and `secure`.
-/
namespace HeaderAudit.Demo

def profiles : List String := ["insecure", "partial", "secure"]

/-- One header field of a page. -/
structure Field where
  name : String
  value : String
  deriving Repr, Inhabited

/-- How a page answers under one profile. A status of zero means `200`. -/
structure Profile where
  status : Int
  contentType : String
  fields : Option (List Field)
  cookies : Option (List String)
  reflectOrigin : Bool
  body : String
  deriving Repr, Inhabited

/-- A page: its path, what it is for, and its answer under each profile. -/
structure Page where
  path : String
  description : String
  answers : List (String × Profile)
  deriving Repr, Inhabited

def navigation : String :=
  "<nav>\n  <a href=\"/\">Home</a> |\n  <a href=\"/login\">Login</a> |\n  <a href=\"/account\">Account</a> |\n" ++
  "  <a href=\"/api/data\">API</a> |\n  <a href=\"/legacy\">Legacy</a>\n</nav>"

def htmlPage (title body : String) : String :=
  "<!DOCTYPE html>\n<html>\n<head>\n  <title>" ++ title ++
  "</title>\n  <script src=\"/static/app.js\"></script>\n</head>\n<body>\n" ++ navigation ++
  "\n<h1>" ++ title ++ "</h1>\n" ++ body ++ "\n</body>\n</html>"

def secureBaseline : List Field := [
  ⟨"Content-Security-Policy",
    "default-src 'self'; script-src 'self'; object-src 'none'; frame-ancestors 'none'; base-uri 'self'"⟩,
  ⟨"Strict-Transport-Security", "max-age=63072000; includeSubDomains; preload"⟩,
  ⟨"X-Content-Type-Options", "nosniff"⟩,
  ⟨"X-Frame-Options", "DENY"⟩,
  ⟨"Cache-Control", "no-store, private"⟩,
  ⟨"Referrer-Policy", "no-referrer"⟩]

def homePage : Page :=
  let body := htmlPage "Demo Shop" "<p>Browse the catalogue or sign in.</p>"
  ⟨"/", "Landing page; public content only", [
    ("insecure", ⟨0, "text/html", some [⟨"Server", "demo/0.1"⟩], none, false, body⟩),
    ("partial", ⟨0, "text/html; charset=utf-8", some [
      ⟨"Content-Security-Policy", "default-src 'self' 'unsafe-inline'"⟩,
      ⟨"X-Content-Type-Options", "nosniff"⟩], none, false, body⟩),
    ("secure", ⟨0, "text/html; charset=utf-8", some secureBaseline, none, false, body⟩)]⟩

def loginPage : Page :=
  let body := htmlPage "Sign in" ("<form method=\"post\" action=\"/login\">\n" ++
    "  <input name=\"user\"> <input name=\"password\" type=\"password\">\n  <button>Sign in</button>\n</form>")
  ⟨"/login", "Login form issuing a session cookie", [
    ("insecure", ⟨0, "text/html", none, some ["session=abc123; Path=/"], false, body⟩),
    ("partial", ⟨0, "text/html; charset=utf-8", some [
      ⟨"Strict-Transport-Security", "max-age=300"⟩,
      ⟨"X-Frame-Options", "SAMEORIGIN"⟩],
      some ["session=abc123; Path=/; HttpOnly", "theme=dark; Path=/"], false, body⟩),
    ("secure", ⟨0, "text/html; charset=utf-8", some secureBaseline,
      some ["__Host-session=abc123; Path=/; Secure; HttpOnly; SameSite=Strict"], false, body⟩)]⟩

def accountPage : Page :=
  let body := htmlPage "Your account" "<p>Order history and saved cards.</p>"
  ⟨"/account", "Personal data that must not be cached", [
    ("insecure", ⟨0, "text/html", some [
      ⟨"Cache-Control", "public, max-age=3600"⟩,
      ⟨"X-XSS-Protection", "1; mode=block"⟩], none, false, body⟩),
    ("partial", ⟨0, "text/html; charset=utf-8", some [
      ⟨"Cache-Control", "private"⟩,
      ⟨"Content-Security-Policy", "default-src 'self'; frame-ancestors 'self'"⟩], none, false, body⟩),
    ("secure", ⟨0, "text/html; charset=utf-8", some secureBaseline, none, false, body⟩)]⟩

def apiPage : Page :=
  let body := "\x7b\"items\":[\x7b\"id\":1,\"name\":\"teapot\"\x7d]\x7d"
  ⟨"/api/data", "JSON endpoint with cross-origin access", [
    ("insecure", ⟨0, "application/json", some [⟨"Access-Control-Allow-Origin", "*"⟩], none, false, body⟩),
    ("partial", ⟨0, "application/json", some [⟨"Access-Control-Allow-Credentials", "true"⟩], none, true,
      body⟩),
    ("secure", ⟨0, "application/json; charset=utf-8", some ([
      ⟨"Access-Control-Allow-Origin", "https://shop.example"⟩,
      ⟨"Vary", "Origin"⟩] ++ secureBaseline), none, false, body⟩)]⟩

def legacyPage : Page :=
  ⟨"/legacy", "Moved page that redirects to the landing page", [
    ("insecure", ⟨302, "", some [⟨"Location", "/"⟩], none, false, ""⟩),
    ("partial", ⟨301, "", some [⟨"Location", "/"⟩, ⟨"Strict-Transport-Security", "max-age=86400"⟩], none,
      false, ""⟩),
    ("secure", ⟨308, "", some ([⟨"Location", "/"⟩] ++ secureBaseline), none, false, ""⟩)]⟩

def allPages : List Page := [homePage, loginPage, accountPage, apiPage, legacyPage]

def Page.answer (p : Page) (profile : String) : Profile :=
  ((p.answers.find? (·.1 == profile)).map (·.2)).getD default

def Profile.toJson (p : Profile) : Json :=
  .obj [("Status", .num p.status), ("ContentType", .str p.contentType),
    ("Headers", Json.opt (fun fs => .arr (fs.map fun f => .obj [("Name", .str f.name), ("Value", .str f.value)]))
      p.fields),
    ("RawCookies", Json.opt Json.strs p.cookies), ("ReflectOrigin", .bool p.reflectOrigin),
    ("Body", .str p.body)]

def Page.toJson (p : Page) : Json :=
  .obj [("Path", .str p.path), ("Description", .str p.description),
    ("Profiles", Json.sortedObj (p.answers.map fun (n, a) => (n, a.toJson)))]

end HeaderAudit.Demo
