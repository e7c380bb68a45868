import Archiver.Config.Basic
import Archiver.Toml.Parse

namespace Archiver

namespace Toml

/-- The values of named fields: of a table those under the names, of an array those in their order. -/
def fields? (t : Toml) (names : List String) : Option (List (Option Toml)) :=
  match t with
  | .table _ entries => some (names.map fun name => entries.lookup name.toList)
  | .array items => some (names.zipIdx.map fun n => items[n.2]?)
  | .tables items => some (names.zipIdx.map fun n => items[n.2]?)
  | _ => none

def text? : Toml → Option String
  | .text s => some (String.ofList s)
  | _ => none

def boolean? : Toml → Option Bool
  | .boolean b => some b
  | _ => none

/-- A whole number from 0 to below a limit. -/
def natBelow? (limit : Nat) : Toml → Option Nat
  | .integer n => if 0 ≤ n && n < Int.ofNat limit then some n.toNat else none
  | _ => none

def word64? (t : Toml) : Option Nat := t.natBelow? 18446744073709551616

def word32? (t : Toml) : Option UInt32 := (t.natBelow? 4294967296).map UInt32.ofNat

/-- A float; a whole number also writes one. -/
def float? : Toml → Option Float
  | .float x => some x
  | .integer n => some (Int64.ofInt n).toFloat
  | _ => none

def items? : Toml → Option (List Toml)
  | .array items => some items
  | .tables items => some items
  | _ => none

def texts? (t : Toml) : Option (List String) := t.items?.bind fun items => items.mapM text?

/-- A field that must be there. -/
def required {α : Type} (read : Toml → Option α) (field : Option Toml) : Option α := field.bind read

/-- A field that may be left out. -/
def withDefault {α : Type} (default : α) (read : Toml → Option α) (field : Option Toml) : Option α :=
  match field with
  | none => some default
  | some t => read t

end Toml

open Toml in
def HarvestSettings.ofToml? (t : Toml) : Option HarvestSettings := do
  let fields ← t.fields? ["base-delay", "max-retries", "backoff-multiplier", "batch-size",
    "batch-delay", "save-interval", "diff-mode", "workers", "min-content-length", "request-timeout"]
  match fields with
  | [base, retries, multiplier, size, delay, save, diff, workers, least, timeout] =>
    return {
      baseDelay := ← required word64? base
      maxRetries := ← required word32? retries
      multiplier := ← required float? multiplier
      batchSize := ← required word64? size
      batchDelay := ← required word64? delay
      saveInterval := ← required word64? save
      diffMode := ← required boolean? diff
      workers := ← withDefault 1 word64? workers
      leastContent := ← withDefault 500 word64? least
      timeout := ← withDefault 30 word64? timeout }
  | _ => none

open Toml in
def Identity.ofToml? (t : Toml) : Option Identity := do
  let fields ← t.fields? ["crawler-name", "crawler-version", "contact-url", "contact-email"]
  match fields with
  | [name, version, url, email] =>
    return ⟨← required text? name, ← required text? version, ← required text? url,
      ← required text? email⟩
  | _ => none

open Toml in
def OutputSettings.ofToml? (t : Toml) : Option OutputSettings := do
  let fields ← t.fields? ["index-dir", "archive-dir", "url-list-file", "progress-file",
    "capture-log-file"]
  match fields with
  | [index, archive, urls, progress, capture] =>
    return {
      indexDir := ← required text? index
      archiveDir := ← required text? archive
      urlListFile := ← withDefault "url_list.txt" text? urls
      progressFile := ← withDefault "manifest.jsonl" text? progress
      captureFile := ← withDefault "capture_log.csv" text? capture }
  | _ => none

open Toml in
def SessionSettings.ofToml? (t : Toml) : Option SessionSettings := do
  let fields ← t.fields? ["probe-url", "marker-selector", "cookie-file"]
  match fields with
  | [probe, marker, cookies] =>
    return ⟨← required text? probe, ← required text? marker,
      ← withDefault none (fun t => t.text?.map some) cookies⟩
  | _ => none

/-- The control that most sites use to lead to the next page. -/
def defaultNextSelector : String := "a.next, a[rel='next'], .pagination .next a, li.next a"

open Toml in
def DiscoverySettings.ofToml? (t : Toml) : Option DiscoverySettings := do
  let fields ← t.fields? ["article-hosts", "article-prefixes", "next-selector", "max-pages",
    "max-page-retries", "page-retry-delay"]
  match fields with
  | [hosts, paths, next, pages, retries, delay] =>
    return {
      hosts := ← required texts? hosts
      paths := ← required texts? paths
      nextSelector := ← withDefault defaultNextSelector text? next
      maxPages := ← withDefault 500 word32? pages
      maxPageRetries := ← withDefault 3 word32? retries
      pageRetryDelay := ← withDefault 2000 word64? delay }
  | _ => none

def SourceKind.ofName? (name : List Char) : Option SourceKind :=
  [SourceKind.listing, .category].find? fun k => k.name.toList == name

/-- A kind is its name, or a table that has it as its only key with nothing under it. -/
def SourceKind.ofToml? : Toml → Option SourceKind
  | .text s => SourceKind.ofName? s
  | .table _ [(name, .table _ [])] => SourceKind.ofName? name
  | .table _ [(name, .array [])] => SourceKind.ofName? name
  | _ => none

open Toml in
def Source.ofToml? (t : Toml) : Option Source := do
  let fields ← t.fields? ["kind", "name", "url"]
  match fields with
  | [kind, name, url] =>
    return ⟨← required SourceKind.ofToml? kind, ← required text? name, ← required text? url⟩
  | _ => none

open Toml in
def Config.ofToml? (t : Toml) : Option Config := do
  let fields ← t.fields? ["harvest", "user-agent", "output", "session", "discovery", "source"]
  match fields with
  | [harvest, identity, output, session, discovery, sources] =>
    return {
      harvest := ← required HarvestSettings.ofToml? harvest
      identity := ← required Identity.ofToml? identity
      output := ← required OutputSettings.ofToml? output
      session := ← withDefault none (fun t => (SessionSettings.ofToml? t).map some) session
      discovery := ← required DiscoverySettings.ofToml? discovery
      sources := ← withDefault [] (fun t => t.items?.bind fun items => items.mapM Source.ofToml?)
        sources }
  | _ => none

end Archiver
