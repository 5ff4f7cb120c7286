import HeaderAudit.Runtime
import HeaderAudit.Host.Idna
import HeaderAudit.Markup.Document
import HeaderAudit.Compare.Search
import HeaderAudit.Yaml.Decode
/-!
The runtime the command line is built with: the stand-in instance of each library.
-/
namespace HeaderAudit

def IdnaLookup.standard : IdnaLookup := ⟨Host.toAscii⟩

def Crawl.LinkReader.standard : Crawl.LinkReader :=
  ⟨fun html => let es := Markup.elements (Bytes.toStringLossy html); fun name key => Markup.attrValues es name key⟩

def LineDiffer.standard : LineDiffer := ⟨Compare.diff⟩

open Yaml

def StoreSettings.decoder : Decoder StoreSettings :=
  record "app.StoreConfig" [
    Field.of "kind" text (·.kind) fun s v => { s with kind := v },
    Field.of "path" text (·.path) fun s v => { s with path := v }]

def AnalyzerSettings.decoder : Decoder AnalyzerSettings :=
  record "analyzer.Config" [
    Field.of "workers" (integer "int") (·.workers) fun s v => { s with workers := v },
    Field.of "reset_before_run" flag (·.resetBeforeRun) fun s v => { s with resetBeforeRun := v }]

def ClientSettings.decoder : Decoder ClientSettings :=
  record "webclient.Config" [
    Field.of "timeout" duration (·.timeout) fun s v => { s with timeout := v },
    Field.of "user_agent" text (·.userAgent) fun s v => { s with userAgent := v },
    Field.of "follow_redirects" flag (·.followRedirects) fun s v => { s with followRedirects := v },
    Field.of "max_body_bytes" (integer "int64") (·.maxBodyBytes) fun s v => { s with maxBodyBytes := v }]

def CrawlLimits.decoder : Decoder CrawlLimits :=
  record "enumerator.Config" [
    Field.of "max_depth" (integer "int") (·.maxDepth) fun s v => { s with maxDepth := v },
    Field.of "max_pages" (integer "int") (·.maxPages) fun s v => { s with maxPages := v }]

def RuleSpec.decoder : Decoder RuleSpec :=
  record "exclusion.RuleSpec" [
    Field.of "id" text (·.id) fun s v => { s with id := v },
    Field.of "type" text (·.kind) fun s v => { s with kind := v },
    Field.of "pattern" text (·.pattern) fun s v => { s with pattern := v }]

/-- The settings file's sections under their keys; keys the settings do not know are ignored,
and a null leaves a setting at its default. -/
def Settings.decoder : Decoder Settings :=
  record "app.Config" [
    Field.of "listen_addr" text (·.listenAddr) fun s v => { s with listenAddr := v },
    Field.of "storage_root" text (·.storageRoot) fun s v => { s with storageRoot := v },
    Field.of "store" StoreSettings.decoder (·.store) fun s v => { s with store := v },
    Field.of "analyzer" AnalyzerSettings.decoder (·.analyzer) fun s v => { s with analyzer := v },
    Field.of "webclient" ClientSettings.decoder (·.client) fun s v => { s with client := v },
    Field.of "spider" CrawlLimits.decoder (·.crawl) fun s v => { s with crawl := v },
    Field.of "origin" text (·.origin) fun s v => { s with origin := v },
    Field.of "exclusions" (list "[]exclusion.RuleSpec" RuleSpec.decoder ⟨"", "", ""⟩) (·.exclusions)
      fun s v => { s with exclusions := v },
    Field.of "job_retention_time" duration (·.jobRetention) fun s v => { s with jobRetention := v }]

def Capture.decoder : Decoder Capture :=
  Yaml.record "analyzer.RawPair" [
    Field.of "request" text (·.request) fun c v => { c with request := v },
    Field.of "response" text (·.response) fun c v => { c with response := v },
    Field.of "use_tls" flag (·.useTls) fun c v => { c with useTls := v },
    Field.of "server_name" text (·.serverName) fun c v => { c with serverName := v }]

def YamlDecoder.standard : YamlDecoder :=
  ⟨fun text s => decodeDocument Settings.decoder s text,
    decodeDocument (list "[]analyzer.RawPair" Capture.decoder ⟨"", "", false, ""⟩) none⟩

def Runtime.standard : Runtime :=
  ⟨.inOrder, .standard, .standard, .standard, .sequential, .standard, .inOrder, .inMemory⟩

end HeaderAudit
