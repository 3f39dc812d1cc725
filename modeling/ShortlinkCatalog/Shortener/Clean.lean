import ShortlinkCatalog.Shortener.Ranking
import ShortlinkCatalog.Url.Parse

/-!
# Cleaning observed URLs

A link that was captured from a page may carry some of the page: a quote, a bracket,
an entity or the rest of a sentence.  Cleaning decodes the path, cuts it at the first
character that no shortcode holds, and leaves the rest to the hook of the shortener.
A batch is cleaned URL by URL: a URL that cannot be read and a code that does not
follow the pattern end it, and a code that has been seen before is passed over.
-/

namespace ShortlinkCatalog

/-- Characters that end a shortcode wherever they occur. -/
def isJunk (character : CodePoint) : Bool :=
  ("\x22])>&\u2019\xa0" : Text).contains character

/-- Paths that every web site has, which are no shortcodes. -/
def ignoredPaths : List Text := ["favicon.ico", "robots.txt"]

/-- A stand-in for a shortcode in documentation, such as `<key>`. -/
def isPlaceholder (text : Text) : Bool :=
  text.head? == some '<' && text.getLast? == some '>'

namespace Url

/-- The decoded path without the slash at its start. -/
def decodedPath (url : Url) : Text :=
  match Percent.decode url.path with
  | '/' :: rest => rest
  | path => path

/-- What of the path may be a shortcode, before the hook sees it. -/
def candidate (url : Url) : Text :=
  if isPlaceholder url.decodedPath then []
  else Text.dropOneEnd '/' (url.decodedPath.takeWhile (!isJunk ·))

/-- The shortcode of a URL, or nothing. -/
def shortcode (hook : Option CleanHook) (url : Url) : Text :=
  if url.candidate.isEmpty then []
  else
    let code := Text.dropOneEnd '/' (match hook with
      | none => url.candidate
      | some hook => hook url.candidate url)
    if ignoredPaths.contains code then [] else code

end Url

/-- A cleaned code that does not follow the pattern of its shortener. -/
structure Mismatch where
  shortener : Text
  shortcode : Text
  pattern : Text
  url : Text
deriving DecidableEq, Repr

inductive CleanError
  | malformed (error : Url.Malformed)
  | mismatch (error : Mismatch)
deriving DecidableEq, Repr

def Mismatch.message (error : Mismatch) : Text :=
  error.shortener ++ ": shortcode " ++ Text.quoted error.shortcode
    ++ " does not match alphabet " ++ error.pattern ++ " after cleaning: "
    ++ Text.quoted error.url

def CleanError.message : CleanError → Text
  | .malformed error => error.message
  | .mismatch error => error.message

namespace Shortener

/-- The shortcode of a URL that has been read. -/
def cleanParsed (shortener : Shortener) (url : Url) : Text := url.shortcode shortener.hook

/-- The shortcode of an observed URL, or nothing. -/
def clean (shortener : Shortener) (url : Text) : Except Url.Malformed Text :=
  (Url.parse url).map shortener.cleanParsed

/-- The shortcode of one URL of a batch, if it has one. -/
def cleanOne (shortener : Shortener) (url : Text) : Except CleanError (Option Text) :=
  match shortener.clean url with
  | .error error => .error (.malformed error)
  | .ok shortcode =>
      if shortcode.isEmpty then .ok none
      else
        match shortener.pattern with
        | none => .ok (some shortcode)
        | some pattern =>
            if pattern.accepts shortcode then .ok (some shortcode)
            else .error (.mismatch ⟨shortener.name, shortcode, pattern.text, url⟩)

/-- What a batch has come to: its shortcodes in the order of their first URLs, and the set
of them, as the test for its members. -/
structure Batch where
  shortcodes : Array Text
  seen : Text → Bool

namespace Batch

def empty : Batch := ⟨#[], fun _ => false⟩

/-- Records a shortcode that has not been seen. -/
def record (batch : Batch) (shortcode : Text) : Batch :=
  if batch.seen shortcode then batch
  else ⟨batch.shortcodes.push shortcode, fun other => other == shortcode || batch.seen other⟩

end Batch

/-- Goes on with one URL. -/
def cleanNext (shortener : Shortener) (batch : Batch) (url : Text) : Except CleanError Batch :=
  match shortener.cleanOne url with
  | .error error => .error error
  | .ok none => .ok batch
  | .ok (some shortcode) => .ok (batch.record shortcode)

def sort (shortener : Shortener) (shortcodes : List Text) : List Text :=
  Ranking.sort shortener.vanity shortcodes

/-- The shortcodes of a batch, each once and in rank order. -/
def cleanUrls (shortener : Shortener) (urls : List Text) : Except CleanError (List Text) :=
  (urls.foldlM shortener.cleanNext Batch.empty).map fun batch =>
    shortener.sort batch.shortcodes.toList

end Shortener

end ShortlinkCatalog
