import Diagnosis.JavaScript.Grammar
import Diagnosis.JavaScript.Scan
import Diagnosis.Parsing.Parser

/-!
# Parsing JavaScript

The tree of a text in JavaScript. The parse table is made from the grammar when the first text is
parsed, and kept.
-/

namespace Diagnosis.JavaScript

/-- The parse table of JavaScript. -/
def table : Thunk Parsing.Table := Thunk.mk fun () => Parsing.Table.of grammar

/-- The tree of a text. -/
def parse (data : Text.Bytes) : Syntax.Tree := Parsing.parse table.get Scan.scan data

end Diagnosis.JavaScript
