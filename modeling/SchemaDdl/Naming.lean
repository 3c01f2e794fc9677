/-!
# Names that are derived

The program names files after namespaces, join tables after the two tables they
join, and tables of a namespace by a prefix of its own. Each of these names is
made here and nowhere else.
-/

namespace SchemaDdl.Naming

def program : String := "lucid-schema"

def version : String := "0.1.0"

def identity : String := program ++ " " ++ version

def configFile : String := ".lucid-schema.yaml"

def artifactFile (space : String) : String := "schema." ++ space ++ ".yaml"

def backupFile (space : String) : String := "~" ++ artifactFile space

def dumpFile (space : String) : String := "schema." ++ space ++ ".sql"

def joinTable (table other : String) : String := table ++ "_to_" ++ other

/-- The name of a table in the database. -/
def physical (tablePrefix table : String) : String := tablePrefix ++ table

end SchemaDdl.Naming
