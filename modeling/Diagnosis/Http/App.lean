import Diagnosis.Analysis.Router
import Diagnosis.Http.Response

/-!
# The HTTP service

Which paths the service has and how it answers requests for them:

* `GET /` says that the service runs, `GET /health` gives the health report;
* `POST /api/debug` analyses code;
* `POST /api/debug/ocr` finds the text in an image.

Slashes at the end of a path do not matter. `App.handle` answers a request or passes a fault on;
`App.respond` is what a client sees of it, to whom a fault shows as an error of the service.
-/

namespace Diagnosis.Http

open Diagnosis.Text Diagnosis.Analysis

/-- What the service offers. -/
inductive Route where
  /-- Says that the service runs. -/
  | banner
  /-- Gives the health report. -/
  | health
  /-- Analyses code. -/
  | debug
  /-- Finds the text in an image. -/
  | recognition
  deriving Repr, DecidableEq

namespace Route

/-- The routes. -/
def all : List Route := [banner, health, debug, recognition]

/-- The path of a route. -/
def path : Route → String
  | banner => "/"
  | health => "/health"
  | debug => "/api/debug"
  | recognition => "/api/debug/ocr"

/-- The method of a route. -/
def method : Route → String
  | banner | health => "GET"
  | debug | recognition => "POST"

/-- The path that an address leads to, without what comes behind it. -/
def pathOf (address : String) : List Char :=
  '/' :: (percentDecoded (address.toList.takeWhile fun c => c ≠ '?' ∧ c ≠ '#')).dropWhile (· = '/')

/-- The route at an address. -/
def at? (address : String) : Option Route :=
  let path := pathOf address
  let shorter := dropEndWhile (· = '/') path
  match all.find? fun r => r.path.toList == path with
  | some r => some r
  | none => all.find? fun r => r.path.toList == shorter

end Route

/-- The service. -/
structure App (m : Type → Type) where
  /-- Analyses code. -/
  router : Router m
  /-- The most bytes that a file may have. -/
  uploadLimit : Int
  /-- Finds the text in an image, or says why it cannot. -/
  recognize : Bytes → Except String String
  /-- The health report. -/
  health : Json

namespace App

variable {m : Type → Type} [Monad m]

/-- What the service says when it runs. -/
def banner : String := "Code Debugger Backend is running!"

/-- The result for a language with lone surrogates: there is no analyzer for it. -/
def unsupported (language : List Nat) : Json :=
  .object [("success", .bool false),
    ("error", .illFormed
      (Json.codesOf Router.beforeLanguage ++ language ++ Json.codesOf Router.afterLanguage))]

/-- The response to a request for an analysis. -/
def debug (app : App m) (r : Request) : m (Except Fault Response) := do
  match r.submission app.uploadLimit with
  | .error refusal => return Response.ofRefusal refusal
  | .ok submission =>
    match submission.language with
    | .text language => return Response.ofOutcome (← app.router.analyze submission.code language)
    | .illFormed codes => return Response.ofJson (unsupported codes)

/-- The response to a request for the text in an image. -/
def findText (app : App m) (r : Request) : Except Fault Response :=
  match r.image app.uploadLimit with
  | .error refusal => Response.ofRefusal refusal
  | .ok data => Response.ofRecognition (app.recognize data)

/-- The response on a route. -/
def serve (app : App m) (r : Request) : Route → m (Except Fault Response)
  | .banner => return .ok ⟨200, .text banner⟩
  | .health => return Response.ofJson app.health
  | .debug => app.debug r
  | .recognition => return app.findText r

/-- The response to a request. One to `HEAD` holds nothing. -/
def handle (app : App m) (r : Request) : m (Except Fault Response) := do
  let method := r.method.toUpper
  let answer ←
    match Route.at? r.path with
    | none => pure (.ok .notFound)
    | some route => if route.method = method then app.serve r route else pure (.ok .wrongMethod)
  return if method = "HEAD" then answer.map ({ · with content := .text "" }) else answer

/-- What a client sees of the answer to a request. -/
def respond (app : App m) (r : Request) : m Response := do
  match ← app.handle r with
  | .ok response => return response
  | .error _ => return .broken

end App

end Diagnosis.Http
