import FactGraph.Fact.Document

namespace FactGraph

/-- Everything that is kept: Objects, Facts with what is attached to them, and the search index.
    Attachments stand in the order in which they were saved, whether or not their Fact is known. -/
structure Stores where
  objects : Table Object := .empty
  facts : Table StoredFact := .empty
  acl : List StoredAclEntry := []
  comments : List StoredComment := []
  documents : Table FactDocument := .empty

namespace Stores

def empty : Stores := {}

def saveObject (stores : Stores) (object : Object) : Stores :=
  { stores with objects := stores.objects.put object }

def saveFact (stores : Stores) (fact : StoredFact) : Stores :=
  { stores with facts := stores.facts.put fact }

def addBinding (stores : Stores) (factId : Uuid) (binding : Binding) : Stores :=
  match stores.facts.get? factId with
  | none => stores
  | some fact => stores.saveFact (fact.addBinding binding)

def saveAclEntry (stores : Stores) (entry : StoredAclEntry) : Stores :=
  { stores with acl := stores.acl ++ [entry] }

def saveComment (stores : Stores) (comment : StoredComment) : Stores :=
  { stores with comments := stores.comments ++ [comment] }

def indexDocument (stores : Stores) (document : FactDocument) : Stores :=
  { stores with documents := stores.documents.put document }

def addDocumentObject (stores : Stores) (factId : Uuid) (object : ObjectDocument) : Stores :=
  match stores.documents.get? factId with
  | none => stores
  | some document => stores.indexDocument (document.addObject object)

def getObject (stores : Stores) (id : Uuid) : Option Object := stores.objects.get? id

def getFact (stores : Stores) (id : Uuid) : Option StoredFact := stores.facts.get? id

def getDocument (stores : Stores) (id : Uuid) : Option FactDocument := stores.documents.get? id

def listFacts (stores : Stores) : List StoredFact := stores.facts.entries

def fetchAcl (stores : Stores) (factId : Uuid) : List StoredAclEntry :=
  stores.acl.filter (·.factId = factId)

def fetchComments (stores : Stores) (factId : Uuid) : List StoredComment :=
  stores.comments.filter (·.factId = factId)

end Stores

inductive Change where
  | saveObject (object : Object)
  | saveFact (fact : StoredFact)
  | addBinding (factId : Uuid) (binding : Binding)
  | saveAclEntry (entry : StoredAclEntry)
  | saveComment (comment : StoredComment)
  | indexDocument (document : FactDocument)
  | addDocumentObject (factId : Uuid) (object : ObjectDocument)

namespace Stores

def apply (stores : Stores) : Change → Stores
  | .saveObject object => stores.saveObject object
  | .saveFact fact => stores.saveFact fact
  | .addBinding factId binding => stores.addBinding factId binding
  | .saveAclEntry entry => stores.saveAclEntry entry
  | .saveComment comment => stores.saveComment comment
  | .indexDocument document => stores.indexDocument document
  | .addDocumentObject factId object => stores.addDocumentObject factId object

def run (stores : Stores) (changes : List Change) : Stores := changes.foldl apply stores

end Stores

end FactGraph
