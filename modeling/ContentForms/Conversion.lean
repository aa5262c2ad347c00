import ContentForms.Extraction
import ContentForms.Generated.Module
import ContentForms.Text.Utf8
import ContentForms.TypeScript.Program

namespace ContentForms

structure Conversion where
  config : Config
  output : String

namespace Conversion

def ofConfig (config : Config) : Conversion := ⟨config, Generated.render config⟩

def read (source : String) : Traced SchemaError Config :=
  Extraction.config (TypeScript.parse source)

-- The config that the bytes of a source declare. What is not text among them does no harm.
def readBytes (bytes : List UInt8) : Traced SchemaError Config :=
  read (Text.Utf8.decodeLossy bytes)

def ofSource (source : String) : Traced SchemaError Conversion := do
  return ofConfig (← read source)

end Conversion

end ContentForms
