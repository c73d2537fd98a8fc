/-!
# Global names

The names that a script may use without declaring them: the built-in objects of the language and
those that a server-side environment provides.
-/

namespace Diagnosis.Lint

/-- The built-in objects of the language. -/
def languageGlobals : List String :=
  ["AggregateError", "Array", "ArrayBuffer", "Atomics", "BigInt", "BigInt64Array",
    "BigUint64Array", "Boolean", "DataView", "Date", "decodeURI", "decodeURIComponent",
    "encodeURI", "encodeURIComponent", "Error", "escape", "eval", "EvalError",
    "FinalizationRegistry", "Float32Array", "Float64Array", "Function", "globalThis",
    "Infinity", "Int8Array", "Int16Array", "Int32Array", "Intl", "isFinite", "isNaN",
    "JSON", "Map", "Math", "NaN", "Number", "Object", "parseFloat", "parseInt",
    "Promise", "Proxy", "RangeError", "ReferenceError", "Reflect", "RegExp", "Set",
    "SharedArrayBuffer", "String", "Symbol", "SyntaxError", "TypeError", "Uint8Array",
    "Uint8ClampedArray", "Uint16Array", "Uint32Array", "undefined", "unescape",
    "URIError", "WeakMap", "WeakRef", "WeakSet", "arguments"]

/-- The names that a server-side environment provides. -/
def environmentGlobals : List String :=
  ["AbortController", "AbortSignal", "atob", "btoa", "Blob", "Buffer",
    "BroadcastChannel", "clearImmediate", "clearInterval", "clearTimeout", "console",
    "crypto", "Event", "EventTarget", "exports", "fetch", "FormData", "global",
    "Headers", "MessageChannel", "MessageEvent", "MessagePort", "module",
    "performance", "process", "queueMicrotask", "Request", "require", "Response",
    "setImmediate", "setInterval", "setTimeout", "structuredClone", "TextDecoder",
    "TextEncoder", "URL", "URLSearchParams", "__dirname", "__filename"]

/-- Whether a name needs no declaration. -/
def isGlobal (name : String) : Bool :=
  languageGlobals.contains name || environmentGlobals.contains name

end Diagnosis.Lint
