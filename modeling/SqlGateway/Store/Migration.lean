/-! The script that creates the table of the records. It can be run again at any time. -/

namespace SqlGateway.Record

def migration : String := "CREATE TABLE IF NOT EXISTS registered_database (
    id VARCHAR(36) NOT NULL PRIMARY KEY,
    name VARCHAR(255) NOT NULL,
    host VARCHAR(255) NOT NULL DEFAULT '',
    port INTEGER NOT NULL DEFAULT 0,
    db_user VARCHAR(255) NOT NULL DEFAULT '',
    password VARCHAR(255) NOT NULL DEFAULT '',
    db_name VARCHAR(1024) NOT NULL,
    driver VARCHAR(32) NOT NULL
);
"

end SqlGateway.Record
