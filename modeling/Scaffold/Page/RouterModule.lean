import Scaffold.Page.Template

/-!
# The module of routers, one for each entity
-/

namespace Scaffold.Page

def routerHead : Template := [
  .lines [
    "",
    ""],
  .text "def ", .put (.entity "var"),
  .text "_router(get_session: Callable[..., Any]) -> APIRouter:\n",
  .text "    \"\"\"CRUD endpoints for ", .put (.entity "name"), .text " under ``/",
  .put (.entity "plural"), .text "``.\"\"\"\n",
  .text "    router = APIRouter(prefix=\"/", .put (.entity "plural"), .text "\", tags=[",
  .literal (.entity "name"), .text "])\n",
  .lines [
    "",
    "    @router.get(\"\")"],
  .text "    def list_", .put (.entity "plural"), .text "(\n",
  .lines [
    "        page: int = 1, limit: int = 10, session: Session = Depends(get_session)",
    "    ) -> dict[str, Any]:",
    "        page = max(page, 1)",
    "        offset = (page - 1) * limit"],
  .text "        total = session.scalar(select(func.count()).select_from(models.",
  .put (.entity "name"), .text "))\n",
  .text "        items = session.scalars(\n",
  .text "            select(models.", .put (.entity "name"),
  .text ").offset(offset).limit(limit)\n",
  .lines [
    "        ).all()",
    "        return \x7b",
    "            \"data\": [_row_to_dict(item) for item in items],",
    "            \"meta\": \x7b\"total\": total or 0, \"page\": page, \"limit\": limit\x7d,",
    "        \x7d",
    "",
    "    @router.post(\"\", status_code=201)"],
  .text "    def create_", .put (.entity "var"), .text "(\n",
  .text "        body: schemas.Create", .put (.entity "name"),
  .text "Schema, session: Session = Depends(get_session)\n",
  .text "    ) -> dict[str, Any]:\n",
  .text "        item = models.", .put (.entity "name"),
  .text "(**body.model_dump(exclude_unset=True))\n"]

def keyAssignment : Node :=
  .when (.holds (.entity "assigns_key")) [
    .text "        item.", .put (.entity "primary_key"), .text " = str(uuid.uuid4())\n"]

def routerTail : Template := [
  .lines [
    "        session.add(item)",
    "        session.commit()",
    "        session.refresh(item)",
    "        return \x7b\"data\": _row_to_dict(item)\x7d",
    "",
    "    @router.get(\"/\x7bitem_id\x7d\")"],
  .text "    def get_", .put (.entity "var"), .text "(item_id: ", .put (.entity "key_type"),
  .text ", session: Session = Depends(get_session)) -> dict[str, Any]:\n",
  .text "        item = session.get(models.", .put (.entity "name"), .text ", item_id)\n",
  .text "        if item is None:\n",
  .text "            raise HTTPException(status_code=404, detail=\"", .put (.entity "name"),
  .text " not found\")\n",
  .lines [
    "        return \x7b\"data\": _row_to_dict(item)\x7d",
    "",
    "    @router.patch(\"/\x7bitem_id\x7d\")"],
  .text "    def update_", .put (.entity "var"), .text "(\n",
  .text "        item_id: ", .put (.entity "key_type"), .text ",\n",
  .text "        body: schemas.Update", .put (.entity "name"), .text "Schema,\n",
  .lines [
    "        session: Session = Depends(get_session),",
    "    ) -> dict[str, Any]:"],
  .text "        item = session.get(models.", .put (.entity "name"), .text ", item_id)\n",
  .text "        if item is None:\n",
  .text "            raise HTTPException(status_code=404, detail=\"", .put (.entity "name"),
  .text " not found\")\n",
  .lines [
    "        for key, value in body.model_dump(exclude_unset=True).items():",
    "            setattr(item, key, value)"],
  .when (.holds (.entity "touches_updated_at")) [
    .text "        item.updated_at = datetime.now(timezone.utc).isoformat()\n"],
  .lines [
    "        session.commit()",
    "        session.refresh(item)",
    "        return \x7b\"data\": _row_to_dict(item)\x7d",
    "",
    "    @router.delete(\"/\x7bitem_id\x7d\")"],
  .text "    def delete_", .put (.entity "var"), .text "(item_id: ", .put (.entity "key_type"),
  .text ", session: Session = Depends(get_session)) -> dict[str, Any]:\n",
  .text "        item = session.get(models.", .put (.entity "name"), .text ", item_id)\n",
  .lines [
    "        if item is not None:",
    "            session.delete(item)",
    "            session.commit()",
    "        return \x7b\"data\": \x7b\"deleted\": True\x7d\x7d",
    "",
    "    return router"]]

def router : Template := routerHead ++ keyAssignment :: routerTail

def routerModule : Template := [
  .lines [
    "\"\"\"FastAPI CRUD routes.",
    ""],
  .put (.name "banner"), .text "\n",
  .lines [
    "\"\"\"",
    "",
    "from __future__ import annotations",
    "",
    "import uuid",
    "from collections.abc import Callable, Iterator",
    "from datetime import datetime, timezone",
    "from typing import Any",
    "",
    "from fastapi import APIRouter, Depends, HTTPException",
    "from sqlalchemy import func, select",
    "from sqlalchemy.orm import Session",
    "",
    "from . import models, schemas",
    "",
    "",
    "def _row_to_dict(item: Any) -> dict[str, Any]:",
    "    return \x7bcolumn.key: getattr(item, column.key) for column in item.__table__.columns\x7d"],
  .each "entity" (.name "entities") router,
  .lines [
    "",
    "",
    "def create_api_router(session_factory: Callable[[], Session]) -> APIRouter:",
    "    \"\"\"Mount every entity router under ``/api``.",
    "",
    "    Args:",
    "        session_factory: Callable returning a new SQLAlchemy ``Session``",
    "            (typically a ``sessionmaker``).",
    "    \"\"\"",
    "",
    "    def get_session() -> Iterator[Session]:",
    "        with session_factory() as session:",
    "            yield session",
    "",
    "    router = APIRouter(prefix=\"/api\")"],
  .each "entity" (.name "entities") [
    .text "    router.include_router(", .put (.entity "var"), .text "_router(get_session))\n"],
  .text "    return router\n"]

end Scaffold.Page
