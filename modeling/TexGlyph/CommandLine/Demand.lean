import TexGlyph.CommandLine.Plan

/-!
# The files of a request

Which files a request looks at.  Those of the configuration and the input are known from the
command line; those with definitions only with the configuration.
-/

namespace TexGlyph.CommandLine.Request

/-- The paths under which a layer of settings is looked for. -/
def layerPaths (layer : ConfigLayer) : List String :=
  layer.path :: (Path.withSuffix? ".toml" layer.path).toList

/-- The paths that are known from the command line. -/
def firstPaths (r : Request) : List String :=
  r.layers.flatMap layerPaths ++ (r.value? .input).toList

/-- The paths that are known with the configuration. -/
def definitionPaths (config : Configuration) : List String :=
  config.search.paths ++
    match config.search.fallbackDir with
    | some directory => Search.systemFiles.map (Path.join directory)
    | none => []

end TexGlyph.CommandLine.Request
