import ServerForge.Category.Basic

/-! What to ask before a server of some category is generated. -/
namespace ServerForge.Category

def questions : Category → List String
  | .basic => [
    "What is the main purpose of your MCP server?",
    "What simple operations do you want to perform?",
    "Do you need any specific error handling?"]
  | .database => [
    "What type of database will you connect to? (MySQL, PostgreSQL, SQLite, MongoDB, etc.)",
    "What are the main tables/collections you'll work with?",
    "Do you need transaction support?",
    "What authentication method does your database use?",
    "Do you need query caching or connection pooling?"]
  | .api => [
    "What API will you integrate with? (Provide base URL if possible)",
    "What authentication method does the API use? (API key, OAuth, Bearer token, etc.)",
    "What are the main endpoints you need to access?",
    "Do you need rate limiting or retry logic?",
    "What data format does the API use? (JSON, XML, etc.)"]
  | .file => [
    "What file operations do you need? (read, write, list, delete, move, etc.)",
    "What file types will you primarily work with?",
    "Do you need to watch for file changes?",
    "Should there be any file size or type restrictions?",
    "Do you need backup or versioning features?"]
  | .custom => [
    "What is the main purpose of your MCP server?",
    "What specific tools/functions do you need?",
    "What external services or APIs will you integrate with?",
    "What data sources will you work with?",
    "Do you need any special authentication or security features?",
    "What programming language do you prefer? (TypeScript/JavaScript)",
    "Do you need any specific dependencies or libraries?"]

end ServerForge.Category
