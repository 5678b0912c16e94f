/-! Statements that read the catalog of a server. Each answers one row per column and constraint, or
    per routine and argument, sorted so that the rows of one table, column or routine stand
    together. -/

namespace SqlGateway.Server

/-- Columns of the tables of the current schema with their keys; its parameter is the name of the
    only table to show, if there is one. -/
def Postgres.tablesStatement : String := "
            SELECT
                c.table_name::text AS table_name,
                c.column_name::text AS column_name,
                c.data_type::text AS data_type,
                (c.is_nullable = 'NO') AS is_required,
                COALESCE(tc.constraint_type = 'PRIMARY KEY', FALSE) AS is_primary_key,
                CASE WHEN tc.constraint_type = 'FOREIGN KEY' THEN ccu.table_name::text END AS fk_table,
                CASE WHEN tc.constraint_type = 'FOREIGN KEY' THEN ccu.column_name::text END AS fk_column
            FROM information_schema.columns c
            JOIN information_schema.tables t
                ON t.table_schema = c.table_schema
                AND t.table_name = c.table_name
                AND t.table_type = 'BASE TABLE'
            LEFT JOIN information_schema.key_column_usage kcu
                ON kcu.table_schema = c.table_schema
                AND kcu.table_name = c.table_name
                AND kcu.column_name = c.column_name
            LEFT JOIN information_schema.table_constraints tc
                ON tc.constraint_schema = kcu.constraint_schema
                AND tc.constraint_name = kcu.constraint_name
                AND tc.constraint_type IN ('PRIMARY KEY', 'FOREIGN KEY')
            LEFT JOIN information_schema.referential_constraints rc
                ON rc.constraint_schema = tc.constraint_schema
                AND rc.constraint_name = tc.constraint_name
            LEFT JOIN information_schema.key_column_usage ccu
                ON ccu.constraint_schema = rc.unique_constraint_schema
                AND ccu.constraint_name = rc.unique_constraint_name
                AND ccu.ordinal_position = kcu.position_in_unique_constraint
            WHERE c.table_schema = current_schema()
            AND ($1::text IS NULL OR c.table_name::text = $1)
            ORDER BY c.table_name, c.ordinal_position, tc.constraint_type
            "

/-- Routines of the current schema with the types of their input arguments. -/
def Postgres.routinesStatement : String := "
            SELECT
                r.routine_name::text AS routine_name,
                r.specific_name::text AS specific_name,
                p.data_type::text AS argument_type
            FROM information_schema.routines r
            LEFT JOIN information_schema.parameters p
                ON p.specific_schema = r.specific_schema
                AND p.specific_name = r.specific_name
                AND p.parameter_mode IN ('IN', 'INOUT')
            WHERE r.routine_schema = current_schema()
            ORDER BY r.routine_name, r.specific_name, p.ordinal_position
            "

/-- Columns of the tables of the current database with their keys; both parameters are the name of
    the only table to show, if there is one. -/
def Mysql.tablesStatement : String := "
            SELECT
                CONVERT(c.TABLE_NAME USING utf8mb4) AS table_name,
                CONVERT(c.COLUMN_NAME USING utf8mb4) AS column_name,
                CONVERT(c.COLUMN_TYPE USING utf8mb4) AS data_type,
                CAST(c.IS_NULLABLE = 'NO' AS SIGNED) AS is_required,
                CAST(COALESCE(tc.CONSTRAINT_TYPE = 'PRIMARY KEY', 0) AS SIGNED) AS is_primary_key,
                CASE WHEN tc.CONSTRAINT_TYPE = 'FOREIGN KEY'
                    THEN CONVERT(kcu.REFERENCED_TABLE_NAME USING utf8mb4) END AS fk_table,
                CASE WHEN tc.CONSTRAINT_TYPE = 'FOREIGN KEY'
                    THEN CONVERT(kcu.REFERENCED_COLUMN_NAME USING utf8mb4) END AS fk_column
            FROM information_schema.COLUMNS c
            JOIN information_schema.TABLES t
                ON t.TABLE_SCHEMA = c.TABLE_SCHEMA
                AND t.TABLE_NAME = c.TABLE_NAME
                AND t.TABLE_TYPE = 'BASE TABLE'
            LEFT JOIN information_schema.KEY_COLUMN_USAGE kcu
                ON kcu.TABLE_SCHEMA = c.TABLE_SCHEMA
                AND kcu.TABLE_NAME = c.TABLE_NAME
                AND kcu.COLUMN_NAME = c.COLUMN_NAME
            LEFT JOIN information_schema.TABLE_CONSTRAINTS tc
                ON tc.CONSTRAINT_SCHEMA = kcu.CONSTRAINT_SCHEMA
                AND tc.TABLE_NAME = kcu.TABLE_NAME
                AND tc.CONSTRAINT_NAME = kcu.CONSTRAINT_NAME
                AND tc.CONSTRAINT_TYPE IN ('PRIMARY KEY', 'FOREIGN KEY')
            WHERE c.TABLE_SCHEMA = DATABASE()
            AND (? IS NULL OR c.TABLE_NAME = ?)
            ORDER BY c.TABLE_NAME, c.ORDINAL_POSITION, tc.CONSTRAINT_TYPE
            "

/-- Routines of the current database with the types of their input arguments. -/
def Mysql.routinesStatement : String := "
            SELECT
                CONVERT(r.ROUTINE_NAME USING utf8mb4) AS routine_name,
                CONVERT(r.SPECIFIC_NAME USING utf8mb4) AS specific_name,
                CONVERT(p.DATA_TYPE USING utf8mb4) AS argument_type
            FROM information_schema.ROUTINES r
            LEFT JOIN information_schema.PARAMETERS p
                ON p.SPECIFIC_SCHEMA = r.ROUTINE_SCHEMA
                AND p.SPECIFIC_NAME = r.SPECIFIC_NAME
                AND p.PARAMETER_MODE IN ('IN', 'INOUT')
            WHERE r.ROUTINE_SCHEMA = DATABASE()
            ORDER BY r.ROUTINE_NAME, r.SPECIFIC_NAME, p.ORDINAL_POSITION
            "

end SqlGateway.Server
